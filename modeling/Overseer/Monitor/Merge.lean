import Overseer.Batch.Snapshot

/-!
# Merging outcomes

What an outcome makes of the progress of an account. Every outcome replaces what was known before,
except that one which is not finished says nothing about an account that is done.
`merge_merge` says that the same outcome a second time changes nothing.
-/

namespace Overseer.Monitor

open Overseer.Batch

/-- What became of an outcome. -/
inductive Merge where
  | changed
  | unchanged
  /-- It is behind what was known. -/
  | regression
  deriving DecidableEq, Repr

/-- The progress that an outcome stands for. Only a success has a detail. -/
def progressOf (o : Outcome) : Progress :=
  ⟨o.status, o.message, if o.finished && o.success then o.detail else none⟩

/-- An outcome that says nothing about an account that is done. -/
def behind (p : Progress) (o : Outcome) : Bool := !o.finished && p.status.terminal

/-- Merges an outcome into the progress of an account. -/
def merge (p : Progress) (o : Outcome) : Progress × Merge :=
  if behind p o then (p, .regression)
  else if p = progressOf o then (p, .unchanged)
  else (progressOf o, .changed)

theorem merge_fst (p : Progress) (o : Outcome) :
    (merge p o).1 = if behind p o then p else progressOf o := by
  unfold merge
  split
  · rfl
  · split
    · next h => exact h
    · rfl

/-- A change is reported exactly if there is one. -/
theorem merge_snd_eq_changed_iff (p : Progress) (o : Outcome) :
    (merge p o).2 = .changed ↔ (merge p o).1 ≠ p := by
  unfold merge
  split
  · simp
  · split
    · simp
    · next h => simpa using Ne.symm h

theorem behind_progressOf (o : Outcome) : behind (progressOf o) o = false := by
  cases h : o.finished <;> simp [behind, progressOf, Outcome.status, Status.terminal, h]

theorem merge_merge (p : Progress) (o : Outcome) :
    (merge (merge p o).1 o).1 = (merge p o).1 := by
  simp only [merge_fst]
  split
  · next h => simp
  · simp [behind_progressOf]

end Overseer.Monitor
