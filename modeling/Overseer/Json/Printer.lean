import Overseer.Json.Value
import Overseer.Json.Reader
import Overseer.Decimal.Notation

/-!
# Writing JSON text

Values without any blanks. Within texts, quotes, backslashes and control characters are escaped and
all other characters stand for themselves.
-/

namespace Overseer.Json

open Overseer.Text Overseer.Decimal

/-- The bytes of ASCII characters. -/
def asciiBytes (cs : List Char) : List UInt8 := cs.map ascii

/-- Two digits of a control character's number. -/
def hexPair (n : Nat) : List Char :=
  [Nat.digitChar (n / 16 % 16), Nat.digitChar (n % 16)]

/-- The bytes of a character between quotes. -/
def writeChar (c : Char) : List UInt8 :=
  if c = '"' then asciiBytes ['\\', '"']
  else if c = '\\' then asciiBytes ['\\', '\\']
  else if c.toNat < 0x20 then
    if c.toNat = 8 then asciiBytes ['\\', 'b']
    else if c.toNat = 12 then asciiBytes ['\\', 'f']
    else if c.toNat = 10 then asciiBytes ['\\', 'n']
    else if c.toNat = 13 then asciiBytes ['\\', 'r']
    else if c.toNat = 9 then asciiBytes ['\\', 't']
    else asciiBytes (['\\', 'u', '0', '0'] ++ hexPair c.toNat)
  else Utf8.encodeChar c

/-- The bytes of a text with its quotes. -/
def writeText (s : String) : List UInt8 :=
  ascii '"' :: (s.toList.flatMap writeChar ++ [ascii '"'])

/-- The bytes of an integer. -/
def writeInt (n : Int) : List UInt8 :=
  let digits := asciiBytes (Nat.toDigits 10 n.natAbs)
  if n < 0 then ascii '-' :: digits else digits

/-- The bytes of a number. -/
def writeNumber : Number → List UInt8
  | .int n => writeInt n
  | .double d => asciiBytes (d.text .plain).toList

/-- A boolean's word. -/
def writeBool (b : Bool) : List UInt8 :=
  asciiBytes (if b then ['t', 'r', 'u', 'e'] else ['f', 'a', 'l', 's', 'e'])

mutual

/-- The bytes of a value. -/
def Value.write : Value → List UInt8
  | .null => asciiBytes ['n', 'u', 'l', 'l']
  | .bool b => writeBool b
  | .number n => writeNumber n
  | .text s => writeText s
  | .array [] => asciiBytes ['[', ']']
  | .array (v :: rest) => ascii '[' :: (v.write ++ writeItems rest)
  | .object [] => asciiBytes ['\x7b', '\x7d']
  | .object (m :: rest) =>
    ascii '\x7b' :: (writeText m.1 ++ ascii ':' :: (m.2.write ++ writeMembers rest))

/-- The items after the first one, and the end of the array. -/
def writeItems : List Value → List UInt8
  | [] => [ascii ']']
  | v :: rest => ascii ',' :: (v.write ++ writeItems rest)

/-- The members after the first one, and the end of the object. -/
def writeMembers : List (String × Value) → List UInt8
  | [] => [ascii '\x7d']
  | m :: rest =>
    ascii ',' :: (writeText m.1 ++ ascii ':' :: (m.2.write ++ writeMembers rest))

end

/-- The text of a value. -/
def Value.render (v : Value) : String := (Utf8.decode v.write).getD ""

end Overseer.Json
