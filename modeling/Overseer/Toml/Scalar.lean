import Overseer.Json.Node
import Overseer.Time.Moment
import Overseer.Toml.Quoted

/-!
# Plain values in TOML

Truth values, numbers, dates and times. Integers have 64 bits with sign. Dates and times are kept as
their text under a key of their own.
-/

namespace Overseer.Toml

open Overseer.Json Overseer.Decimal Overseer.Time

/-! ### Dates and times -/

/-- A date. -/
def date : Scan String := fun cs => do
  let (y, cs) ← fixed 4 cs
  let cs ← mark '-' cs
  let (m, cs) ← fixed 2 cs
  let cs ← mark '-' cs
  let (d, cs) ← fixed 2 cs
  let date : Date := ⟨y, m, d⟩
  if date.valid then some (padded 4 y ++ "-" ++ padded 2 m ++ "-" ++ padded 2 d, cs) else none

/-- A number of digits behind a point as the fraction of a second: nine digits, without zeros at
the end. -/
def fractionText (ds : List Char) : String :=
  let kept := ((ds.take 9).reverse.dropWhile (· == '0')).reverse
  if kept.isEmpty then "" else "." ++ String.ofList kept

/-- A time of day. -/
def time : Scan String := fun cs => do
  let (h, cs) ← fixed 2 cs
  let cs ← mark ':' cs
  let (m, cs) ← fixed 2 cs
  let cs ← mark ':' cs
  let (s, cs) ← fixed 2 cs
  let whole := padded 2 h ++ ":" ++ padded 2 m ++ ":" ++ padded 2 s
  if h ≤ 23 ∧ m ≤ 59 ∧ s ≤ 60 then
    match cs with
    | '.' :: rest =>
      let ds := rest.takeWhile Char.isDigit
      if ds.isEmpty then some (whole, cs)
      else some (whole ++ fractionText ds, rest.drop ds.length)
    | _ => some (whole, cs)
  else none

/-- The offset of a zone. -/
def zone : Scan String
  | 'Z' :: rest | 'z' :: rest => some ("Z", rest)
  | c :: rest =>
    if c = '+' ∨ c = '-' then do
      let (h, cs) ← fixed 2 rest
      let cs ← mark ':' cs
      let (m, cs) ← fixed 2 cs
      let sign := if c = '-' ∧ h + m ≠ 0 then "-" else "+"
      if h ≤ 23 ∧ m ≤ 59 then some (sign ++ padded 2 h ++ ":" ++ padded 2 m, cs) else none
    else none
  | [] => none

/-- The time and the zone behind a date, if they are there. -/
def timeOfDate (cs : List Char) : String × List Char :=
  match cs with
  | c :: rest =>
    if c = 'T' ∨ c = 't' ∨ c = ' ' then
      match time rest with
      | some (t, rest) =>
        match zone rest with
        | some (z, rest) => ("T" ++ t ++ z, rest)
        | none => ("T" ++ t, rest)
      | none => ("", cs)
    else ("", cs)
  | [] => ("", cs)

/-- A date, a time or both. -/
def dateTime : Scan String := fun cs =>
  match date cs with
  | some (d, rest) =>
    let t := timeOfDate rest
    some (d ++ t.1, t.2)
  | none => time cs

/-- The key under which a date or time is kept. -/
def dateTimeKey : String := "$__toml_private_datetime"

/-! ### Numbers -/

/-- An integer as a node. -/
def intNode (negative : Bool) (n : Nat) : Node :=
  let ds := (Nat.toDigits 10 n).map digitValue
  .number ⟨negative && n != 0, ds, none, none⟩

/-- A sign, if there is one. -/
def sign : List Char → Bool × List Char
  | '-' :: rest => (true, rest)
  | '+' :: rest => (false, rest)
  | cs => (false, cs)

/-- The digits of a decimal integer: a zero stands alone. -/
def wholeDigits : Scan (List Char)
  | '0' :: rest => some (['0'], rest)
  | cs => digits Char.isDigit cs

/-- An integer below a limit, in a base, behind its mark. -/
def based (base : Nat) : Scan Node := fun cs =>
  (digits (isDigitOf base) cs).bind fun r =>
    let n := numberOf base r.1
    if n < Nat.pow 2 63 then some (intNode false n, r.2) else none

/-- An integer. -/
def integer : Scan Node
  | '0' :: 'x' :: rest => based 16 rest
  | '0' :: 'o' :: rest => based 8 rest
  | '0' :: 'b' :: rest => based 2 rest
  | cs =>
    let s := sign cs
    (wholeDigits s.2).bind fun r =>
      let n := numberOf 10 r.1
      if n < Nat.pow 2 63 ∨ (s.1 = true ∧ n = Nat.pow 2 63) then some (intNode s.1 n, r.2) else none

/-- The exponent of a float: whether it is negative, and its digits. -/
def exponent : Scan (Bool × List Char)
  | c :: rest =>
    if c = 'e' ∨ c = 'E' then
      let s := sign rest
      (digits Char.isDigit s.2).map fun r => ((s.1, r.1), r.2)
    else none
  | [] => none

/-- The double nearest to `n * 10 ^ k`. Far beyond all doubles the power is not formed. -/
def nearestDouble (n : Nat) (k : Int) : Double :=
  if n = 0 then .zero
  else if 400 < k then .infinity
  else if 0 ≤ k then .nearest (n * Nat.pow 10 k.toNat) 1
  else if k < -(400 + (Nat.toDigits 10 n).length : Int) then .zero
  else .nearest n (Nat.pow 10 k.natAbs)

/-- The node of a float. A number above all doubles is none. -/
def floatNode? (negative : Bool) (whole fraction : List Char) (power : Bool × List Char) :
    Option Node :=
  let k : Int := numberOf 10 power.2
  let k := (if power.1 then -k else k) - fraction.length
  let d := nearestDouble (numberOf 10 (whole ++ fraction)) k
  if d.special ∧ negative = false then none else some (.double (if negative then d.neg else d))

/-- A float with a fraction or an exponent or both. -/
def decimalFloat : Scan Node := fun cs =>
  let s := sign cs
  (wholeDigits s.2).bind fun w =>
    match exponent w.2 with
    | some e => (floatNode? s.1 w.1 [] e.1).map fun n => (n, e.2)
    | none =>
      match w.2 with
      | '.' :: rest =>
        (digits Char.isDigit rest).bind fun f =>
          match exponent f.2 with
          | some e => (floatNode? s.1 w.1 f.1 e.1).map fun n => (n, e.2)
          | none => (floatNode? s.1 w.1 f.1 (false, [])).map fun n => (n, f.2)
      | _ => none

/-- The double that is no number. -/
def notANumber : Double := ⟨0x7FF8000000000000⟩

/-- The floats with a name. -/
def namedFloat : Scan Node := fun cs =>
  let s := sign cs
  let signed (d : Double) : Node := .double (if s.1 then d.neg else d)
  match s.2 with
  | 'i' :: 'n' :: 'f' :: rest => some (signed .infinity, rest)
  | 'n' :: 'a' :: 'n' :: rest => some (signed notANumber, rest)
  | _ => none

/-- A plain value. -/
def scalar : Scan Node := fun cs =>
  match cs with
  | '"' :: _ | '\'' :: _ => (text cs).map fun r => (.text (some r.1), r.2)
  | 't' :: 'r' :: 'u' :: 'e' :: rest => some (.bool true, rest)
  | 'f' :: 'a' :: 'l' :: 's' :: 'e' :: rest => some (.bool false, rest)
  | _ =>
    match dateTime cs with
    | some (t, rest) => some (.object [(some dateTimeKey, .text (some t))], rest)
    | none => (decimalFloat cs).or (namedFloat cs) |>.or (integer cs)

end Overseer.Toml
