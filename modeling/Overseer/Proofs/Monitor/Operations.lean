import Mathlib.Data.List.Induction
import Overseer.Proofs.Monitor.Standing

/-!
# Operations in any order

A board under any sequence of operations, with any epochs, answers and accounts.  What is refused
changes nothing, so every operation leads somewhere (`Board.next`).

* `Board.Did` : all that an operation does to a board whose gate is in order: it stays within the
  run, or is one of the three that do not.
* `Board.did_next` : nothing else happens, so the gate is in order after any operations
  (`Board.gated_after`).
* `Board.refused_leaves_no_trace` : **an operation that is refused changes nothing**, also where it
  opens the gate before it knows that it will be.
-/

namespace Overseer.Monitor

open Overseer.Batch Overseer.Time

namespace Board

/-- The board after an operation; one that is refused changes nothing. -/
def next (b : Board) : BoardOp → Board
  | .poll e s => (b.applyPoll e s).elim b (·.1)
  | .log x at_ => (b.ingest x at_).1
  | .acknowledge e => (b.acknowledge e).1
  | .rollback e reason => (b.rollback e reason).1
  | .stop => b.beginStop.1
  | .forceIdle => b.forceIdle.1
  | .start =>
    match b.beginRun with
    | .ok b' => b'
    | .error _ => b
  | .load accounts =>
    match b.load accounts with
    | .ok out => out.1
    | .error _ => b

/-- The board after operations in order. -/
def after (b : Board) (ops : List BoardOp) : Board := ops.foldl next b

theorem after_append (b : Board) (ops : List BoardOp) (op : BoardOp) :
    b.after (ops ++ [op]) = (b.after ops).next op := List.foldl_concat ..

/-- What is kept of operations, one after the other, by the board as it stands before each. -/
def track {α : Type} (f : Board → α → BoardOp → α) (start : α) (b : Board)
    (ops : List BoardOp) : α :=
  (ops.foldl (fun now op => (now.1.next op, f now.1 now.2 op)) (b, start)).2

theorem track_append {α : Type} (f : Board → α → BoardOp → α) (start : α) (b : Board)
    (ops : List BoardOp) (op : BoardOp) :
    track f start b (ops ++ [op]) = f (b.after ops) (track f start b ops) op := by
  have hboard : (ops.foldl (fun now op => (now.1.next op, f now.1 now.2 op)) (b, start)).1 =
      b.after ops := by
    induction ops using List.reverseRecOn with
    | nil => rfl
    | append_singleton ops op ih => rw [List.foldl_concat, after_append, ih]
  rw [track, List.foldl_concat, hboard, track]

theorem next_of_within {b b' : Board} {op : BoardOp} (h : b.within op = some b') :
    b.next op = b' := by
  cases op with
  | rollback e reason =>
    simp only [within] at h
    split at h
    · cases h
    · exact Option.some.inj h
  | start =>
    simp only [within] at h
    split at h
    · cases h
    · next hr => rw [next, hr]; exact Option.some.inj h
  | load accounts =>
    simp only [within] at h
    split at h
    · cases h
    · next hr => rw [next, hr]; exact Option.some.inj h
  | _ => exact Option.some.inj h

/-- All that an operation does. -/
inductive Did (b : Board) : BoardOp → Board → Prop where
  | within {op : BoardOp} {b' : Board} (h : b.within op = some b') : Did b op b'
  | began (hl : b.lifecycle = .idle) (hs : b.roster.size ≠ 0) : Did b .start b.begun
  | loaded {accounts : List Account} (hl : b.lifecycle = .idle) :
      Did b (.load accounts) (b.onRoster (b.roster.replace accounts).1)
  | tookBack {reason : String} (hl : b.lifecycle ≠ .idle) :
      Did b (.rollback b.epoch reason) (b.refused reason)

variable {b b' : Board} {op : BoardOp}

/-- **An operation does nothing else.** -/
theorem did_next (hg : b.Gated) (op : BoardOp) : b.Did op (b.next op) := by
  cases hw : b.within op with
  | some b' =>
    rw [next_of_within hw]
    exact .within hw
  | none =>
    -- what leaves the run is a load, a start or a rollback that is not refused
    cases op with
    | rollback e reason =>
      by_cases hc : e ≠ b.epoch ∨ b.lifecycle = .idle
      · rw [Board.within, rollback_other hg hc] at hw
        cases hw
      · obtain ⟨he, hl⟩ := not_or.1 hc
        obtain rfl := Decidable.not_not.1 he
        have hn : b.next (.rollback b.epoch reason) = b.refused reason :=
          congrArg Prod.fst (rollback_current hg rfl hl reason)
        rw [hn]
        exact .tookBack hl
    | start =>
      simp only [Board.within] at hw
      split at hw
      · next hr =>
        obtain ⟨hl, hs, rfl⟩ := beginRun_eq_ok_iff.1 hr
        have hn : b.next .start = b.begun := by simp only [next, hr]
        rw [hn]
        exact .began hl hs
      · cases hw
    | load accounts =>
      by_cases hl : b.lifecycle = .idle
      · have hn : b.next (.load accounts) = b.onRoster (b.roster.replace accounts).1 := by
          simp only [next, load_idle hl]
        rw [hn]
        exact .loaded hl
      · rw [Board.within, load_active hl] at hw
        cases hw
    | _ => cases hw

theorem Did.gated (hg : b.Gated) (h : b.Did op b') : b'.Gated := by
  cases h with
  | within hw => exact (hg.within hw).1
  | began => exact gated_begun b
  | loaded => exact hg.onRoster _
  | tookBack => exact (gated_ended b).onRoster _

theorem gated_after (hg : b.Gated) (ops : List BoardOp) : (b.after ops).Gated := by
  induction ops using List.reverseRecOn with
  | nil => exact hg
  | append_singleton ops op ih =>
    rw [after_append]
    exact (did_next ih op).gated ih

/-! ### Refusals -/

/-- An operation is refused, by what it gives back. -/
inductive Refuses (b : Board) : BoardOp → Prop where
  | load {accounts : List Account} {e : MonitorError} (h : b.load accounts = .error e) :
      Refuses b (.load accounts)
  | start {e : MonitorError} (h : b.beginRun = .error e) : Refuses b .start
  /-- The question was put in another run. -/
  | poll {e : Nat} {s : Snapshot} (h : b.applyPoll e s = none) : Refuses b (.poll e s)
  | rollback {e : Nat} {reason : String} (h : (b.rollback e reason).2 = false) :
      Refuses b (.rollback e reason)
  /-- The start of that run is not waited for. -/
  | acknowledge {e : Nat} (h : b.awaiting ≠ some e) : Refuses b (.acknowledge e)
  | stop (h : b.beginStop.2 = .alreadyIdle ∨ b.beginStop.2 = .alreadyStopping) : Refuses b .stop
  | forceIdle (h : b.forceIdle.2 = false) : Refuses b .forceIdle

/-- **What is refused changes nothing**, as long as the gate is in order.  A rollback and a forced
end open the gate before they know whether there is a run to end, so without that they would. -/
theorem Gated.next_of_refuses (hg : b.Gated) (h : b.Refuses op) : b.next op = b := by
  cases h with
  | load h | start h => simp only [next, h]
  | poll h => rw [next, h, Option.elim_none]
  | @rollback e reason h =>
    by_cases hc : e ≠ b.epoch ∨ b.lifecycle = .idle
    · exact congrArg Prod.fst (rollback_other hg hc reason)
    · -- this one would not be refused
      obtain ⟨he, hl⟩ := not_or.1 hc
      rw [rollback_current hg (Decidable.not_not.1 he) hl] at h
      cases h
  | acknowledge h => exact congrArg Prod.fst (acknowledge_other h)
  | stop h =>
    cases hl : b.lifecycle with
    | idle => exact congrArg Prod.fst (beginStop_idle hl)
    | stopping => exact congrArg Prod.fst (beginStop_stopping hl)
    | running => simp [beginStop_running hl] at h
  | forceIdle h =>
    by_cases hl : b.lifecycle = .idle
    · exact congrArg Prod.fst (forceIdle_idle hg hl)
    · rw [forceIdle_active hl] at h
      cases h

/-- **Refused operations leave no trace.**  After any operations, with any epochs, one that is
refused leaves the board exactly as it is; so whatever comes behind it goes as if it had never been
tried. -/
theorem refused_leaves_no_trace (set : Settings) (ops : List BoardOp)
    (h : ((initial set).after ops).Refuses op) :
    ((initial set).after ops).next op = (initial set).after ops ∧
      ∀ rest, (initial set).after (ops ++ op :: rest) = (initial set).after (ops ++ rest) := by
  have hsame := (gated_after (gated_initial set) ops).next_of_refuses h
  refine ⟨hsame, fun rest => ?_⟩
  simp only [after] at hsame ⊢
  rw [List.foldl_append, List.foldl_cons, hsame, List.foldl_append]

/-- The word that the start of an earlier run was refused comes while the start of a run is waited
for and a closing message is held. -/
theorem refused_leaves_no_trace_while_held :
    let ops : List BoardOp := [.load [⟨"a", "A"⟩], .start, .rollback 1 "no", .start,
      .log ⟨systemId, "All tasks completed", .info, none⟩ ⟨0, 0⟩]
    let b := (initial .default).after ops
    b.awaiting = some 2 ∧ b.held = true ∧ b.Refuses (.rollback 1 "late") ∧
      b.next (.rollback 1 "late") = b ∧
      ((initial .default).after (ops ++ [.rollback 1 "late", .acknowledge 2])).lifecycle =
        .idle := by
  intro ops b
  have hr : b.Refuses (.rollback 1 "late") := .rollback (by decide +kernel)
  obtain ⟨hsame, hrest⟩ := refused_leaves_no_trace .default ops hr
  refine ⟨by decide +kernel, by decide +kernel, hr, hsame, ?_⟩
  rw [hrest [.acknowledge 2]]
  decide +kernel

end Board

end Overseer.Monitor
