import Overseer.Decimal.Shortest

/-!
# Written doubles

How a double is written: which exponents are positional, and how the others are marked.
-/

namespace Overseer.Decimal

/-- The choices of a written form of doubles. -/
structure Style where
  /-- The least power of ten written positionally. -/
  leastPositional : Int
  /-- The largest power of ten written positionally. -/
  largestPositional : Int
  /-- Whether an exponent that is not negative has a plus sign. -/
  plusSign : Bool

/-- Positional from `10 ^ -5` up to below `10 ^ 16`, and an exponent with its sign otherwise. -/
def Style.plain : Style := ⟨-5, 15, true⟩

/-- Decimal digits as text. -/
def digitChars (ds : List Nat) : List Char := ds.map fun d => Char.ofNat ('0'.toNat + d)

/-- A positional decimal with at least one digit on either side of the point. -/
def positional (d : Scientific) : List Char :=
  if 0 ≤ d.exp10 then
    let n := d.exp10.toNat + 1
    let whole := d.digits.take n ++ List.replicate (n - d.digits.length) 0
    let rest := d.digits.drop n
    digitChars whole ++ '.' :: digitChars (if rest.isEmpty then [0] else rest)
  else '0' :: '.' :: digitChars (List.replicate ((-d.exp10).toNat - 1) 0 ++ d.digits)

/-- A decimal with one digit before the point and an exponent. -/
def exponential (style : Style) (d : Scientific) : List Char :=
  let mantissa :=
    match d.digits with
    | [] => ['0']
    | [a] => digitChars [a]
    | a :: rest => digitChars [a] ++ '.' :: digitChars rest
  let sign := if d.exp10 < 0 then ['-'] else if style.plusSign then ['+'] else []
  mantissa ++ 'e' :: sign ++ Nat.toDigits 10 d.exp10.natAbs

/-- The text of a finite double. -/
def Double.text (style : Style) (x : Double) : String :=
  let sign := if x.negative then ['-'] else []
  let body :=
    if x.isZero then ['0', '.', '0']
    else
      let d := x.shortest
      if style.leastPositional ≤ d.exp10 ∧ d.exp10 ≤ style.largestPositional then positional d
      else exponential style d
  String.ofList (sign ++ body)

end Overseer.Decimal
