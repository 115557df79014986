import Overseer.Proofs.Json.Texts

/-!
# Integers read back

An integer is written in decimal digits.  Nothing at the end of a number says that it ends there, so
the reader takes it only with the next byte, which is a comma or a closing bracket in what is
written here.

* `Reader.feed_writeInt` : **a written integer reads back** as its digits, at the delimiter behind.
* `number?_literal` : the digits of an integer of 64 bits, with or without sign, mean that integer.
* `printable_writeInt` : no byte of a written integer is a control character.
-/

namespace Overseer.Json

/-! ### Digits -/

/-- The decimal digits of a number, in order. -/
def decimals (n : Nat) : List Nat := if n < 10 then [n] else decimals (n / 10) ++ [n % 10]

theorem decimals_of_lt {n : Nat} (h : n < 10) : decimals n = [n] := by
  rw [decimals, if_pos h]

theorem decimals_of_le {n : Nat} (h : 10 ≤ n) : decimals n = decimals (n / 10) ++ [n % 10] := by
  rw [decimals, if_neg (Nat.not_lt.2 h)]

theorem decimals_ne_zero {n : Nat} (h : 0 < n) : decimals n ≠ [0] := by
  by_cases hn : n < 10
  · rw [decimals_of_lt hn]
    simp [Nat.ne_of_gt h]
  · rw [decimals_of_le (Nat.not_lt.1 hn)]
    intro heq
    have empty : decimals (n / 10) = [] := by
      have := congrArg List.length heq
      simpa using this
    rw [decimals] at empty
    split at empty <;> simp at empty

theorem toDigits_eq (n : Nat) : Nat.toDigits 10 n = (decimals n).map Nat.digitChar := by
  induction n using decimals.induct with
  | case1 n h => rw [decimals_of_lt h, Nat.toDigits_of_lt_base h, List.map_singleton]
  | case2 n h ih =>
    have h := Nat.not_lt.1 h
    rw [decimals_of_le h, Nat.toDigits_of_base_le (by decide) h, ih, List.map_append,
      List.map_singleton]

/-- A natural number of so many bits. -/
def Fits (bits n : Nat) : Prop := n < Nat.pow 2 bits

/-- An integer of 64 bits with sign. -/
def Signed (n : Int) : Prop := -(Nat.pow 2 63 : Nat) ≤ n ∧ n < (Nat.pow 2 63 : Nat)

/-- An integer of 64 bits, with or without sign. -/
def InRange (n : Int) : Prop := -(Nat.pow 2 63 : Nat) ≤ n ∧ n < (Nat.pow 2 64 : Nat)

instance (bits n : Nat) : Decidable (Fits bits n) := Nat.decLt _ _

instance (n : Int) : Decidable (Signed n) := inferInstanceAs (Decidable (_ ∧ _))

instance (n : Int) : Decidable (InRange n) := inferInstanceAs (Decidable (_ ∧ _))

theorem pow_63 : Nat.pow 2 63 = 9223372036854775808 := rfl

theorem pow_64 : Nat.pow 2 64 = 18446744073709551616 := rfl

theorem Fits.mono {a b n : Nat} (h : Fits a n) (hab : a ≤ b) : Fits b n :=
  Nat.lt_of_lt_of_le h (Nat.pow_le_pow_right (by decide) hab)

theorem Fits.inRange {n : Nat} (h : Fits 64 n) : InRange n :=
  ⟨by omega, Int.ofNat_lt.2 h⟩

theorem Signed.inRange {n : Int} (h : Signed n) : InRange n := by
  obtain ⟨lo, hi⟩ := h
  rw [pow_63] at hi
  refine ⟨lo, ?_⟩
  rw [pow_64]
  omega

/-- The digits of a number of 64 bits are taken in without a rest. -/
theorem absorb_decimals {n : Nat} (h : Fits 64 n) (rest : List Nat) :
    absorb 0 (decimals n ++ rest) = absorb n rest := by
  induction n using decimals.induct generalizing rest with
  | case1 n hn =>
    have : 0 * 10 + n < Nat.pow 2 64 := by rw [Nat.zero_mul, Nat.zero_add]; exact h
    rw [decimals_of_lt hn, List.singleton_append, absorb, if_pos this, Nat.zero_mul, Nat.zero_add]
  | case2 n hn ih =>
    -- no prefix of the digits is larger than the number, so none overflows
    have value : n / 10 * 10 + n % 10 = n := by omega
    have : n < Nat.pow 2 64 := h
    rw [decimals_of_le (Nat.not_lt.1 hn), List.append_assoc,
      ih (Nat.lt_of_le_of_lt (Nat.div_le_self n 10) h), List.singleton_append,
      absorb, value, if_pos this]

/-- An integer as it is written. -/
def literal (n : Int) : Literal := ⟨n < 0, decimals n.natAbs, none, none⟩

theorem number?_literal {n : Int} (h : InRange n) : (literal n).number? = some (.int n) := by
  obtain ⟨lo, hi⟩ := h
  rw [pow_63] at lo
  rw [pow_64] at hi
  have habs : absorb 0 (decimals n.natAbs) = (n.natAbs, []) := by
    have fits : Fits 64 n.natAbs := by
      rw [Fits, pow_64]
      omega
    have := absorb_decimals fits []
    rwa [List.append_nil] at this
  by_cases hn : n < 0
  · have fits : n.natAbs ≠ 0 ∧ n.natAbs ≤ Nat.pow 2 63 := by
      rw [pow_63]
      omega
    have value : -(n.natAbs : Int) = n := by omega
    simp only [Literal.number?, literal, habs, decide_eq_true hn, Option.isNone_none,
      List.isEmpty_nil, Bool.and_self, if_true]
    rw [if_neg (by decide), if_pos fits, value]
  · have value : (n.natAbs : Int) = n := by omega
    simp only [Literal.number?, literal, habs, decide_eq_false hn, Option.isNone_none,
      List.isEmpty_nil, Bool.and_self, if_true, value]

/-! ### Reading digits -/

/-- A byte that ends a number: a comma or a closing bracket. -/
def Delimiter (b : UInt8) : Prop := b = ascii ',' ∨ b = ascii ']' ∨ b = ascii '\x7d'

namespace Reader

/-- A reader that can take a value where it stands. -/
def Ready (r : Reader) : Prop := ∀ ms rest, r.stack ≠ .object ms :: rest

theorem step_put {r : Reader} (h : r.Ready) (n : Node) (b : UInt8) :
    (r.put n).step b = (r.put n).behind b := by
  obtain ⟨stack, phase, root⟩ := r
  cases stack with
  | nil => rfl
  | cons f rest =>
    cases f with
    | array items => rfl
    | member ms key => rfl
    | object ms => exact absurd rfl (h ms rest)

/-- A whole number that is being read. -/
def whole (negative : Bool) (digits : List Nat) : NumberDraft :=
  ⟨.whole, negative, digits.reverse, [], false, []⟩

theorem extend?_whole (negative : Bool) {ds : List Nat} (h : ds ≠ [0]) {d : Nat} (hd : d < 10) :
    (whole negative ds).extend? (ascii (Nat.digitChar d)) = some (whole negative (ds ++ [d])) := by
  have digit : ∀ d < 10, NumberDraft.digit? (ascii (Nat.digitChar d)) = some d := by decide
  have hr : ds.reverse ≠ [0] := by
    intro heq
    exact h (by simpa using congrArg List.reverse heq)
  simp [NumberDraft.extend?, whole, digit d hd, hr]

theorem feed_toDigits {r : Reader} {negative : Bool}
    (first : ∀ d < 10, r.step (ascii (Nat.digitChar d)) =
      { r with phase := .number (whole negative [d]) }) (n : Nat) :
    r.feed (asciiBytes (Nat.toDigits 10 n)) =
      { r with phase := .number (whole negative (decimals n)) } := by
  rw [toDigits_eq]
  induction n using decimals.induct with
  | case1 n h =>
    rw [decimals_of_lt h]
    exact first n h
  | case2 n h ih =>
    have h := Nat.not_lt.1 h
    -- the digits before the last one are no zero, behind which none could come
    have more := extend?_whole negative (decimals_ne_zero (n := n / 10) (by omega))
      (Nat.mod_lt n (by decide))
    rw [decimals_of_le h, List.map_append, asciiBytes, List.map_append, feed_append, ← asciiBytes,
      ih]
    simp only [feed, List.map_cons, List.map_nil, List.foldl_cons, List.foldl_nil, step, more]

theorem step_digit {r : Reader} (h : r.AtValue) {d : Nat} (hd : d < 10) :
    r.step (ascii (Nat.digitChar d)) = { r with phase := .number (whole false [d]) } := by
  obtain ⟨stack, phase, root⟩ := r
  match d, hd with
  | 0, _ | 1, _ | 2, _ | 3, _ | 4, _ | 5, _ | 6, _ | 7, _ | 8, _ | 9, _ =>
    rcases h with h | h <;> cases h <;> rfl

theorem step_minus {r : Reader} (h : r.AtValue) :
    r.step (ascii '-') = { r with phase := .number ⟨.sign, true, [], [], false, []⟩ } := by
  obtain ⟨stack, phase, root⟩ := r
  rcases h with h | h <;> cases h <;> rfl

theorem step_digit_sign (stack : List Frame) (root : Option Node) {d : Nat} (hd : d < 10) :
    step ⟨stack, .number ⟨.sign, true, [], [], false, []⟩, root⟩ (ascii (Nat.digitChar d)) =
      ⟨stack, .number (whole true [d]), root⟩ := by
  match d, hd with
  | 0, _ | 1, _ | 2, _ | 3, _ | 4, _ | 5, _ | 6, _ | 7, _ | 8, _ | 9, _ => rfl

theorem feed_writeInt_digits (n : Int) {r : Reader} (h : r.AtValue) :
    r.feed (writeInt n) = { r with phase := .number (whole (n < 0) (decimals n.natAbs)) } := by
  by_cases hn : n < 0
  · rw [writeInt, if_pos hn]
    show feed (r.step _) _ = _
    rw [step_minus h, feed_toDigits fun d hd => step_digit_sign _ _ hd, decide_eq_true hn]
  · rw [writeInt, if_neg hn, feed_toDigits fun d hd => step_digit h hd, decide_eq_false hn]

theorem step_whole {b : UInt8} (hb : Delimiter b) {r : Reader} (ready : r.Ready) (negative : Bool)
    (ds : List Nat) :
    step { r with phase := .number (whole negative ds) } b =
      (r.put (.number ⟨negative, ds, none, none⟩)).step b := by
  have no : (whole negative ds).extend? b = none := by
    rcases hb with rfl | rfl | rfl <;> rfl
  have done : (whole negative ds).literal? = some ⟨negative, ds, none, none⟩ := by
    simp [whole, NumberDraft.literal?]
  rw [step_put ready, ← put_phase r (.number (whole negative ds))]
  simp only [step, no, done]

/-- **A written integer reads back** at the delimiter behind it. -/
theorem feed_writeInt (n : Int) {b : UInt8} (hb : Delimiter b) {r : Reader} (h : r.AtValue)
    (ready : r.Ready) : (r.feed (writeInt n)).step b = (r.put (.number (literal n))).step b := by
  rw [feed_writeInt_digits n h, step_whole hb ready]
  rfl

end Reader

theorem printable_writeInt (n : Int) : Printable (writeInt n) := by
  have digits : Printable (asciiBytes (Nat.toDigits 10 n.natAbs)) := by
    intro b hb
    obtain ⟨c, hc, rfl⟩ := List.mem_map.1 hb
    have hd := Nat.isDigit_of_mem_toDigits (by decide) (by decide) hc
    simp only [Char.isDigit, Bool.and_eq_true, decide_eq_true_eq, ge_iff_le,
      UInt32.le_iff_toNat_le] at hd
    obtain ⟨lo, hi⟩ : 48 ≤ c.toNat ∧ c.toNat ≤ 57 := hd
    rw [ascii, UInt8.toNat_ofNat', Nat.mod_eq_of_lt (by omega)]
    exact Nat.le_trans (by decide) lo
  rw [writeInt]
  split
  · exact digits.cons (by decide)
  · exact digits

end Overseer.Json
