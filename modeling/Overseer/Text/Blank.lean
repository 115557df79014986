/-!
# Blank characters

The white space of Unicode, and text without it at either end. `trimChars_eq_nil_iff` says which
texts leave nothing: those of blank characters only.
-/

namespace Overseer.Text

/-- The characters with the Unicode property `White_Space`. -/
def isBlank (c : Char) : Bool :=
  let n := c.toNat
  (0x9 ≤ n && n ≤ 0xD) || n == 0x20 || n == 0x85 || n == 0xA0 || n == 0x1680 ||
    (0x2000 ≤ n && n ≤ 0x200A) || n == 0x2028 || n == 0x2029 || n == 0x202F || n == 0x205F ||
    n == 0x3000

/-- Characters without the blank ones at the end. -/
def trimEndChars (cs : List Char) : List Char := (cs.reverse.dropWhile isBlank).reverse

/-- Characters without the blank ones at either end. -/
def trimChars (cs : List Char) : List Char := trimEndChars (cs.dropWhile isBlank)

/-- A text without the blank characters at its end. -/
def trimEnd (s : String) : String := String.ofList (trimEndChars s.toList)

/-- A text without the blank characters at either end. -/
def trim (s : String) : String := String.ofList (trimChars s.toList)

/-- A text of blank characters only. -/
def blank (s : String) : Bool := s.toList.all isBlank

theorem dropWhile_isBlank_eq_nil_iff {cs : List Char} :
    cs.dropWhile isBlank = [] ↔ ∀ c ∈ cs, isBlank c = true := by
  induction cs with
  | nil => simp
  | cons d ds ih =>
    by_cases hd : isBlank d = true
    · simp [List.dropWhile_cons_of_pos hd, ih, hd]
    · simp [List.dropWhile_cons_of_neg hd, hd]

theorem trimChars_eq_nil_iff {cs : List Char} : trimChars cs = [] ↔ ∀ c ∈ cs, isBlank c = true := by
  simp only [trimChars, trimEndChars, List.reverse_eq_nil_iff, dropWhile_isBlank_eq_nil_iff,
    List.mem_reverse]
  constructor
  · intro h
    have hnil : cs.dropWhile isBlank = [] := by
      cases hd : cs.dropWhile isBlank with
      | nil => rfl
      | cons d ds =>
        have hfalse : isBlank d = false := by
          have := List.head?_dropWhile_not isBlank cs
          simpa [hd] using this
        have := h d (by simp [hd])
        simp [hfalse] at this
    exact dropWhile_isBlank_eq_nil_iff.1 hnil
  · exact fun h c hc => h c ((List.dropWhile_sublist _).mem hc)

end Overseer.Text
