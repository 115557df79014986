import Overseer.Decimal.Double

/-!
# Shortest decimals

The fewest decimal digits that read back as a given double, and of those the nearest to it. With
one digit, two digits and so on the two neighbours of the double on that decimal grid are tried: if
any point of the grid reads back, one of the neighbours does.
-/

namespace Overseer.Decimal

/-- A decimal in scientific form: digits `d₀ d₁ d₂ …` stand for `d₀.d₁d₂… * 10 ^ exp10`. -/
structure Scientific where
  /-- The significant digits, without zeros at the end. -/
  digits : List Nat
  /-- The power of ten of the first digit. -/
  exp10 : Int
  deriving DecidableEq, Repr

/-- The decimal digits of a natural number, highest first. -/
def digitsOf (n : Nat) : List Nat := (Nat.toDigits 10 n).map fun c => c.toNat - '0'.toNat

namespace Double

/-- `c * 10 ^ s` as a ratio. -/
def decimalRatio (c : Nat) (s : Int) : Nat × Nat :=
  if 0 ≤ s then (c * Nat.pow 10 s.toNat, 1) else (c, Nat.pow 10 (-s).toNat)

/-- The magnitude of a finite double as a ratio. -/
def ratio (x : Double) : Nat × Nat := scaled x.mant 1 x.exp2

/-- The lower end of the magnitudes that read back as `x`, as a ratio. -/
def lowerEnd (x : Double) : Nat × Nat :=
  if x.fracField = 0 ∧ 1 < x.expField then scaled (4 * x.mant - 1) 4 x.exp2
  else scaled (2 * x.mant - 1) 2 x.exp2

/-- The upper end of the magnitudes that read back as `x`, as a ratio. -/
def upperEnd (x : Double) : Nat × Nat := scaled (2 * x.mant + 1) 2 x.exp2

/-- `r` reads back as `x`: it lies between the ends, which belong to an even significand. -/
def readsBack (x : Double) (r : Nat × Nat) : Bool :=
  let lo := x.lowerEnd
  let hi := x.upperEnd
  if x.mant % 2 = 0 then lo.1 * r.2 ≤ r.1 * lo.2 && r.1 * hi.2 ≤ hi.1 * r.2
  else lo.1 * r.2 < r.1 * lo.2 && r.1 * hi.2 < hi.1 * r.2

/-- The largest `k` with `10 ^ k ≤ num / den`, for a positive ratio of a double. -/
def floorLog10 (num den : Nat) : Int :=
  if den ≤ num then ((digitsOf (num / den)).length : Int) - 1
  else
    match (List.range 400).find? fun j => den ≤ num * Nat.pow 10 (j + 1) with
    | some j => -((j : Int) + 1)
    | none => 0

/-- The distance between two ratios, over the product of their denominators. -/
def distance (a b : Nat × Nat) : Nat :=
  if b.1 * a.2 ≤ a.1 * b.2 then a.1 * b.2 - b.1 * a.2 else b.1 * a.2 - a.1 * b.2

/-- The point of the grid `10 ^ s * ℕ` that is nearest to `x` among those that read back. -/
def onGrid? (x : Double) (s : Int) : Option Nat :=
  let v := x.ratio
  let unit := decimalRatio 1 s
  let below := v.1 * unit.2 / (v.2 * unit.1)
  let lo := decimalRatio below s
  let hi := decimalRatio (below + 1) s
  match x.readsBack lo, x.readsBack hi with
  | true, true =>
    let down := distance v lo
    let up := distance v hi
    if down < up ∨ (down = up ∧ below % 2 = 0) then some below else some (below + 1)
  | true, false => some below
  | false, true => some (below + 1)
  | false, false => none

/-- The shortest decimal of a finite double other than zero. -/
def shortest (x : Double) : Scientific :=
  let v := x.ratio
  let k := floorLog10 v.1 v.2
  let found := (List.range 17).findSome? fun (n : Nat) =>
    let s := k - (n : Int)
    (x.onGrid? s).map fun c => (c, s)
  match found with
  | some (c, s) =>
    let ds := digitsOf c
    ⟨(ds.reverse.dropWhile (· == 0)).reverse, s + ds.length - 1⟩
  | none => ⟨[0], 0⟩

end Double

end Overseer.Decimal
