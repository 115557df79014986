import Overseer.Decimal.Notation

/-!
# The characters of written numbers

A number is written with digits, signs, a point and the letter of an exponent, whatever its value
and the style.

* `numerals_text` : a double is written with these characters, and at least one of them.
* `numerals_toString` : so is an integer.
-/

namespace Overseer.Decimal

/-- A character that numbers are written with. -/
def Numeral (c : Char) : Prop := c.isDigit = true ∨ c ∈ ['-', '+', '.', 'e']

/-- Some characters, and only those that numbers are written with. -/
def Numerals (cs : List Char) : Prop := cs ≠ [] ∧ ∀ c ∈ cs, Numeral c

theorem toNat_of_isDigit {c : Char} (h : c.isDigit = true) : 48 ≤ c.toNat ∧ c.toNat ≤ 57 := by
  simp only [Char.isDigit, Bool.and_eq_true, decide_eq_true_eq, ge_iff_le,
    UInt32.le_iff_toNat_le] at h
  exact h

theorem Numeral.toNat_le {c : Char} (h : Numeral c) : 0x20 < c.toNat ∧ c.toNat < 0x80 := by
  rcases h with h | h
  · have := toNat_of_isDigit h
    omega
  · simp only [List.mem_cons, List.not_mem_nil, or_false] at h
    rcases h with rfl | rfl | rfl | rfl <;> decide

theorem numeral_toDigits (n : Nat) : ∀ c ∈ Nat.toDigits 10 n, Numeral c :=
  fun _ hc => .inl (Nat.isDigit_of_mem_toDigits (by decide) (by decide) hc)

/-! ### Digits -/

theorem digitsOf_lt (n : Nat) : ∀ d ∈ digitsOf n, d < 10 := by
  intro d hd
  obtain ⟨c, hc, rfl⟩ := List.mem_map.1 hd
  have := toNat_of_isDigit (Nat.isDigit_of_mem_toDigits (by decide) (by decide) hc)
  show c.toNat - 48 < 10
  omega

theorem numeral_digitChars {ds : List Nat} (h : ∀ d ∈ ds, d < 10) :
    ∀ c ∈ digitChars ds, Numeral c := by
  intro c hc
  obtain ⟨d, hd, rfl⟩ := List.mem_map.1 hc
  have digit : ∀ d < 10, (Char.ofNat ('0'.toNat + d)).isDigit = true := by decide
  exact .inl (digit d (h d hd))

theorem shortest_lt (x : Double) : ∀ d ∈ x.shortest.digits, d < 10 := by
  unfold Double.shortest
  dsimp only
  split
  · intro d hd
    -- the digits that are left are some of those of the number
    have hmem := (List.dropWhile_sublist _).mem (List.mem_reverse.1 hd)
    exact digitsOf_lt _ d (List.mem_reverse.1 hmem)
  · simp

/-! ### Doubles -/

variable {d : Scientific}

theorem numerals_positional (h : ∀ a ∈ d.digits, a < 10) : Numerals (positional d) := by
  have point : Numeral '.' := .inr (by decide)
  rw [positional]
  split
  · refine ⟨by simp, fun c hc => ?_⟩
    rcases List.mem_append.1 hc with hc | hc
    · refine numeral_digitChars (fun a ha => ?_) c hc
      rcases List.mem_append.1 ha with ha | ha
      · exact h a (List.mem_of_mem_take ha)
      · rw [List.eq_of_mem_replicate ha]
        decide
    · rcases List.mem_cons.1 hc with rfl | hc
      · exact point
      · refine numeral_digitChars (fun a ha => ?_) c hc
        split at ha
        · rw [List.mem_singleton.1 ha]
          decide
        · exact h a (List.mem_of_mem_drop ha)
  · refine ⟨by simp, fun c hc => ?_⟩
    rcases List.mem_cons.1 hc with rfl | hc
    · exact .inl rfl
    rcases List.mem_cons.1 hc with rfl | hc
    · exact point
    refine numeral_digitChars (fun a ha => ?_) c hc
    rcases List.mem_append.1 ha with ha | ha
    · rw [List.eq_of_mem_replicate ha]
      decide
    · exact h a ha

theorem numerals_exponential (style : Style) (h : ∀ a ∈ d.digits, a < 10) :
    Numerals (exponential style d) := by
  have sign : ∀ c ∈ (if d.exp10 < 0 then ['-'] else if style.plusSign then ['+'] else []),
      Numeral c := by
    intro c hc
    split at hc
    · exact .inr (by simp_all)
    · split at hc
      · exact .inr (by simp_all)
      · cases hc
  rw [exponential]
  refine ⟨by simp, fun c hc => ?_⟩
  rcases List.mem_append.1 hc with hc | hc
  · rcases List.mem_append.1 hc with hc | hc
    · -- the digits in front of the exponent
      split at hc
      · rw [List.mem_singleton.1 hc]
        exact .inl rfl
      · next a hd => exact numeral_digitChars (hd ▸ h) c hc
      · next a rest _ hd =>
        obtain ⟨ha, hrest⟩ := List.forall_mem_cons.1 (hd ▸ h)
        rcases List.mem_append.1 hc with hc | hc
        · exact numeral_digitChars (List.forall_mem_singleton.2 ha) c hc
        · rcases List.mem_cons.1 hc with rfl | hc
          · exact .inr (by decide)
          · exact numeral_digitChars hrest c hc
    · rcases List.mem_cons.1 hc with rfl | hc
      · exact .inr (by decide)
      · exact sign c hc
  · exact numeral_toDigits _ c hc

/-- **A double is written with the characters of numbers.** -/
theorem numerals_text (style : Style) (x : Double) : Numerals (x.text style).toList := by
  have body : Numerals (if x.isZero then ['0', '.', '0']
      else if style.leastPositional ≤ x.shortest.exp10 ∧ x.shortest.exp10 ≤ style.largestPositional
        then positional x.shortest else exponential style x.shortest) := by
    split
    · exact ⟨by simp, by simp [Numeral, Char.isDigit]⟩
    · split
      · exact numerals_positional (shortest_lt x)
      · exact numerals_exponential style (shortest_lt x)
  rw [Double.text, String.toList_ofList]
  refine ⟨fun h => body.1 (List.append_eq_nil_iff.1 h).2, fun c hc => ?_⟩
  rcases List.mem_append.1 hc with hc | hc
  · split at hc
    · exact .inr (by simp_all)
    · cases hc
  · exact body.2 c hc

/-! ### Integers -/

/-- **An integer is written with the characters of numbers.** -/
theorem numerals_toString (n : Int) : Numerals (toString n).toList := by
  have natural : ∀ m : Nat, (Nat.repr m).toList = Nat.toDigits 10 m := fun m =>
    String.toList_ofList
  cases n with
  | ofNat m =>
    show Numerals (Nat.repr m).toList
    rw [natural]
    exact ⟨Nat.toDigits_ne_nil, numeral_toDigits m⟩
  | negSucc m =>
    show Numerals ("-" ++ Nat.repr (m + 1)).toList
    rw [String.toList_append, natural]
    refine ⟨by simp, fun c hc => ?_⟩
    rcases List.mem_append.1 hc with hc | hc
    · exact .inr (by simp_all)
    · exact numeral_toDigits _ c hc

end Overseer.Decimal
