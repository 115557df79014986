import Overseer.Json.Node

/-!
# Numbers

The value of a written number. An integer that fits 64 bits is an integer; every other number is a
double: its leading digits, as many as fit 64 bits, are rounded to a double, which is then scaled
by a power of ten, rounding once more.
-/

namespace Overseer.Json

open Overseer.Decimal

/-- A number by its value. -/
inductive Number where
  /-- An integer of 64 bits, with or without sign. -/
  | int (n : Int)
  /-- Any other number. -/
  | double (d : Double)
  deriving DecidableEq, Repr

/-- The leading digits that fit 64 bits behind `n`, and the digits after them. -/
def absorb (n : Nat) : List Nat → Nat × List Nat
  | [] => (n, [])
  | d :: rest => if n * 10 + d < Nat.pow 2 64 then absorb (n * 10 + d) rest else (n, d :: rest)

/-- The largest and smallest exponent that is told apart from one beyond it. -/
def powerLimit : Nat := Nat.pow 2 31

/-- The number that digits spell, if it is below `powerLimit`. -/
def powerOf? (ds : List Nat) : Option Nat :=
  let n := ds.foldl (fun n d => if n < powerLimit then n * 10 + d else n) 0
  if n < powerLimit then some n else none

/-- A power of ten between the limits. -/
def clampPower (k : Int) : Int := max (-(powerLimit : Int)) (min ((powerLimit : Int) - 1) k)

/-- `x / 10 ^ k`, in steps of `10 ^ 308`. -/
def shrink (x : Double) : Nat → Double
  | k =>
    if h : k ≤ 308 then x.div (.pow10 k)
    else if x.isZero then x
    else shrink (x.div (.pow10 308)) (k - 308)
termination_by k => k
decreasing_by omega

/-- `x * 10 ^ k`, unless it is beyond the largest double. -/
def scale? (x : Double) (k : Int) : Option Double :=
  if k < 0 then some (shrink x k.natAbs)
  else if k ≤ 308 then
    let y := x.mul (.pow10 k.toNat)
    if y.special then none else some y
  else if x.isZero then some x
  else none

namespace Literal

/-- The magnitude of a number that is no integer of 64 bits; `none` beyond the largest double. -/
def magnitude? (l : Literal) : Option Double :=
  let w := absorb 0 l.whole
  let dropped := w.2.length
  let frac := l.fraction.getD []
  let f := absorb w.1 frac
  let shift : Int := (dropped : Int) - ((frac.length - f.2.length : Nat) : Int)
  match l.exponent with
  | none => scale? (.ofNat f.1) shift
  | some (minus, ds) =>
    match powerOf? ds with
    | some k => scale? (.ofNat f.1) (clampPower (if minus then shift - k else shift + k))
    | none => if f.1 ≠ 0 ∧ minus = false then none else some .zero

/-- The value of a written number; `none` beyond the largest double. -/
def number? (l : Literal) : Option Number :=
  let w := absorb 0 l.whole
  let double := (l.magnitude?).map fun d => .double (if l.negative then d.neg else d)
  if l.fraction.isNone && l.exponent.isNone && w.2.isEmpty then
    if l.negative = false then some (.int w.1)
    else if w.1 ≠ 0 ∧ w.1 ≤ Nat.pow 2 63 then some (.int (-(w.1 : Int)))
    else double
  else double

end Literal

end Overseer.Json
