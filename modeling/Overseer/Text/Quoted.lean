import Overseer.Text.PrintTable

/-!
# Quoted text

A text between double quotes as diagnostics show it: quotes, backslashes and the common controls
have a short escape, other characters without a form of their own are written by code point, and
all others stand for themselves.
-/

namespace Overseer.Text.Quoted

/-- A number in lower-case hexadecimal digits. -/
def hex (n : Nat) : List Char := Nat.toDigits 16 n

/-- The written form of one character between quotes. -/
def escape (c : Char) : List Char :=
  if c == '"' then ['\\', '"']
  else if c == '\\' then ['\\', '\\']
  else if c == '\n' then ['\\', 'n']
  else if c == '\r' then ['\\', 'r']
  else if c == '\t' then ['\\', 't']
  else if c.toNat == 0 then ['\\', '0']
  else if inRanges extendingRanges c.toNat || inRanges unprintableRanges c.toNat then
    ['\\', 'u', '\x7b'] ++ hex c.toNat ++ ['\x7d']
  else [c]

/-- A text between double quotes. -/
def quote (s : String) : String :=
  String.ofList ('"' :: s.toList.flatMap escape ++ ['"'])

end Overseer.Text.Quoted
