import Mathlib.Data.List.DropRight
import Overseer.Text.Blank

/-!
# Trimmed texts

Trimming takes the blanks off both ends, and there is nothing left for a second time.

* `trim_trim` : trimming twice is trimming once.
* `Trimmed` : what trimming leaves of a text with content, which is never blank itself
  (`Trimmed.not_blank`).
-/

namespace Overseer.Text

theorem trimEndChars_eq (cs : List Char) : trimEndChars cs = cs.rdropWhile isBlank := rfl

/-- **Nothing is left to trim** once it is done. -/
theorem trimChars_trimChars (cs : List Char) : trimChars (trimChars cs) = trimChars cs := by
  -- what is cut off at the end leaves the first character, which is no blank
  have hfront : (trimChars cs).dropWhile isBlank = trimChars cs := by
    have hfirst : trimChars cs <+: cs.dropWhile isBlank := List.rdropWhile_prefix ..
    have hself := List.dropWhile_idempotent (p := isBlank) (l := cs)
    rw [List.dropWhile_eq_self_iff] at hself ⊢
    intro hl
    rw [hfirst.getElem hl]
    exact hself (Nat.lt_of_lt_of_le hl hfirst.length_le)
  rw [trimChars, hfront]
  exact List.rdropWhile_idempotent isBlank _

theorem trim_trim (s : String) : trim (trim s) = trim s := by
  rw [trim, trim, String.toList_ofList, trimChars_trimChars]

/-- A text with content and without blanks at its ends. -/
structure Trimmed (s : String) : Prop where
  nonempty : s ≠ ""
  trim_eq : trim s = s

theorem trimmed_trim {s : String} (h : blank s = false) : Trimmed (trim s) := by
  refine ⟨fun hempty => ?_, trim_trim s⟩
  have hnil : trimChars s.toList = [] := by simpa [trim] using hempty
  have hall := trimChars_eq_nil_iff.1 hnil
  rw [blank, List.all_eq_true.2 hall] at h
  cases h

theorem trimmed_of_forall {s : String} (hne : s ≠ "") (h : ∀ c ∈ s.toList, isBlank c = false) :
    Trimmed s := by
  refine ⟨hne, ?_⟩
  have hfront : s.toList.dropWhile isBlank = s.toList := by
    rw [List.dropWhile_eq_self_iff]
    intro hl
    simp [h _ (List.getElem_mem hl)]
  have hback : s.toList.rdropWhile isBlank = s.toList := by
    rw [List.rdropWhile_eq_self_iff]
    intro hl
    simp [h _ (List.getLast_mem hl)]
  rw [trim, trimChars, hfront, trimEndChars_eq, hback, String.ofList_toList]

theorem Trimmed.not_blank {s : String} (h : Trimmed s) : blank s = false := by
  rw [Bool.eq_false_iff]
  intro hb
  have hnil := trimChars_eq_nil_iff.2 (List.all_eq_true.1 hb)
  refine h.nonempty ?_
  rw [← h.trim_eq, trim, hnil]

end Overseer.Text
