/-!
# Double-precision numbers

A double is its 64 bits: a sign, an exponent and a fraction. Its magnitude is `mant * 2 ^ exp2`, so
products and quotients are formed exactly on naturals and rounded once by `nearest`, half a unit
going to the even neighbour.
-/

namespace Overseer.Decimal

/-- A number in the binary64 format. -/
structure Double where
  /-- The sign bit, eleven exponent bits and 52 fraction bits, highest first. -/
  bits : UInt64
  deriving DecidableEq, Repr

namespace Double

/-- The bits without the sign. -/
def low (x : Double) : Nat := x.bits.toNat % Nat.pow 2 63

/-- Whether the sign bit is set. -/
def negative (x : Double) : Bool := Nat.pow 2 63 ≤ x.bits.toNat

/-- The exponent field. -/
def expField (x : Double) : Nat := x.low / Nat.pow 2 52

/-- The fraction field. -/
def fracField (x : Double) : Nat := x.low % Nat.pow 2 52

/-- An infinity or not a number. -/
def special (x : Double) : Bool := x.expField == 2047

/-- One of the two zeros. -/
def isZero (x : Double) : Bool := x.low == 0

/-- The significand of a finite number. -/
def mant (x : Double) : Nat := if x.expField = 0 then x.fracField else x.fracField + Nat.pow 2 52

/-- The power of two that scales the significand of a finite number. -/
def exp2 (x : Double) : Int := if x.expField = 0 then -1074 else (x.expField : Int) - 1075

/-- The two zeros and the infinity. -/
def zero : Double := ⟨0⟩

/-- The number with its sign turned. -/
def neg (x : Double) : Double := ⟨x.bits ^^^ 0x8000000000000000⟩

/-- Positive infinity. -/
def infinity : Double := ⟨0x7FF0000000000000⟩

/-- `num * 2 ^ e` as a ratio with the denominator `den`. -/
def scaled (num den : Nat) (e : Int) : Nat × Nat :=
  if 0 ≤ e then (num * Nat.pow 2 e.toNat, den) else (num, den * Nat.pow 2 (-e).toNat)

/-- The quotient rounded to the nearest natural, a half to the even one. -/
def roundHalfEven (num den : Nat) : Nat :=
  let quo := num / den
  let twice := 2 * (num % den)
  if den < twice ∨ (twice = den ∧ quo % 2 = 1) then quo + 1 else quo

/-- The largest `e` with `2 ^ e ≤ num / den`, for positive `num` and `den`. -/
def floorLog2 (num den : Nat) : Int :=
  let e := (num.log2 : Int) - den.log2
  let r := scaled den 1 e
  if r.1 ≤ num * r.2 then e else e - 1

/-- The double nearest to `num / den`; beyond the largest double, infinity. -/
def nearest (num den : Nat) : Double :=
  if num = 0 then zero
  else
    let q := max (floorLog2 num den - 52) (-1074)
    let r := scaled num den (-q)
    let n := (q + 1074).toNat * Nat.pow 2 52 + roundHalfEven r.1 r.2
    if n < infinity.bits.toNat then ⟨UInt64.ofNat n⟩ else infinity

/-- The double nearest to a natural number. -/
def ofNat (n : Nat) : Double := nearest n 1

/-- The double nearest to a power of ten. -/
def pow10 (k : Nat) : Double := nearest (Nat.pow 10 k) 1

/-- The product of two finite magnitudes, rounded once. -/
def mul (x y : Double) : Double :=
  let r := scaled (x.mant * y.mant) 1 (x.exp2 + y.exp2)
  nearest r.1 r.2

/-- The quotient of two finite magnitudes with a divisor other than zero, rounded once. -/
def div (x y : Double) : Double :=
  let r := scaled x.mant y.mant (x.exp2 - y.exp2)
  nearest r.1 r.2

end Double

end Overseer.Decimal
