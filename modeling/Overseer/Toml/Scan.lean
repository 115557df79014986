/-!
# Scanning TOML text

The parts that lines are made of: blanks, comments, ends of lines, and runs of digits with
underscores between them. A scanner takes characters and gives what it found and what is left.
-/

namespace Overseer.Toml

/-- A scanner for `α`. -/
abbrev Scan (α : Type) := List Char → Option (α × List Char)

/-- Spaces and tabs. -/
def isSpace (c : Char) : Bool := c == ' ' || c == '\t'

/-- What may stand in a comment. -/
def isPlain (c : Char) : Bool := c == '\t' || (0x20 ≤ c.toNat && c.toNat != 0x7F)

/-- Characters without spaces and tabs in front. -/
def skipSpace (cs : List Char) : List Char := cs.dropWhile isSpace

/-- What follows an end of line, if one stands in front. -/
def newline? : List Char → Option (List Char)
  | '\n' :: rest => some rest
  | '\r' :: '\n' :: rest => some rest
  | _ => none

/-- Characters without a comment in front. -/
def skipComment : List Char → List Char
  | '#' :: rest => rest.dropWhile isPlain
  | cs => cs

/-- What follows the rest of a line that holds no more than blanks and a comment. -/
def lineEnd? (cs : List Char) : Option (List Char) :=
  match skipComment (skipSpace cs) with
  | [] => some []
  | cs => newline? cs

/-- What follows blanks, comments and ends of lines; `none` if a line holds what it may not. -/
def skipLines : Nat → List Char → Option (List Char)
  | 0, cs => some cs
  | fuel + 1, cs =>
    match cs with
    | [] => some []
    | c :: rest =>
      if isSpace c then skipLines fuel rest
      else if c = '#' then
        match rest.dropWhile isPlain with
        | [] => some []
        | rest => (newline? rest).bind (skipLines fuel)
      else
        match newline? cs with
        | some rest => skipLines fuel rest
        | none => some cs

/-- Digits behind the first one, each alone or behind an underscore. -/
def moreDigits (isDigit : Char → Bool) : List Char → List Char × List Char
  | '_' :: c :: rest =>
    if isDigit c then
      let more := moreDigits isDigit rest
      (c :: more.1, more.2)
    else ([], '_' :: c :: rest)
  | c :: rest =>
    if isDigit c then
      let more := moreDigits isDigit rest
      (c :: more.1, more.2)
    else ([], c :: rest)
  | [] => ([], [])

/-- One or more digits, with underscores between them. -/
def digits (isDigit : Char → Bool) : Scan (List Char)
  | c :: rest =>
    if isDigit c then
      let more := moreDigits isDigit rest
      some (c :: more.1, more.2)
    else none
  | [] => none

/-- The value of a digit of any base up to sixteen. -/
def digitValue (c : Char) : Nat :=
  if c.isDigit then c.toNat - '0'.toNat
  else if 'a' ≤ c ∧ c ≤ 'f' then c.toNat - 'a'.toNat + 10
  else if 'A' ≤ c ∧ c ≤ 'F' then c.toNat - 'A'.toNat + 10
  else 16

/-- A digit of a base. -/
def isDigitOf (base : Nat) (c : Char) : Bool := digitValue c < base

/-- The number that digits spell. -/
def numberOf (base : Nat) (ds : List Char) : Nat :=
  ds.foldl (fun n c => n * base + digitValue c) 0

/-- Exactly `n` decimal digits as a number. -/
def fixed (n : Nat) : Scan Nat := fun cs =>
  let ds := cs.take n
  if ds.length = n ∧ ds.all Char.isDigit then some (numberOf 10 ds, cs.drop n) else none

/-- A given character. -/
def mark (c : Char) : List Char → Option (List Char)
  | d :: rest => if d = c then some rest else none
  | [] => none

end Overseer.Toml
