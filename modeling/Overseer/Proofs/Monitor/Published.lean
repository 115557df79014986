import Overseer.Proofs.Monitor.LateReturns
import Overseer.Proofs.Monitor.Moves
import Overseer.Proofs.Monitor.Roster

/-!
# The published view

A monitor publishes its view by hand, wherever it changes what is shown.  Nothing is forgotten: a
step leaves a published view that is the current one, and says so whenever it is another one than
before (`Keeper.Step.published`).  The one step that changes the board and publishes nothing is an
answer without news, which changes no row (`Board.view_reconcile_of_unchanged`).

* `Keeper.published_view_current` : **the published view is never stale**, in any history and in any
  course.
-/

namespace Overseer.Monitor

open Overseer.Batch Overseer.Time

theorem Board.view_reconcile_of_unchanged {b : Board} {s : Snapshot}
    (h : (b.roster.reconcile s).2.hasChanges = false) :
    (b.onRoster (b.roster.reconcile s).1).view = b.view := by
  simp only [Board.view, View.project, Board.onRoster, Roster.rows_reconcile_of_unchanged h]

namespace Keeper

variable {k k' : Keeper} {now : Nat} {e : Event} {l : List Effect}

theorem answeredPoll_published (k : Keeper) (e : Nat) (sch : Bool) :
    (k.answeredPoll e sch).published = k.published := by
  unfold answeredPoll
  split <;> rfl

/-- **A step leaves the current view published**, and publishes if it is a new one. -/
theorem Step.published (hs : k.Step now e k' l) (h : k.published = k.board.view) :
    k'.published = k'.board.view ∧ (k'.published ≠ k.published → Effect.published ∈ l) := by
  cases hs with
  | start | stop | loaded | takenOver | refused | polled | logged | heldBack | closed | expired =>
    exact ⟨rfl, fun _ => by simp⟩
  | pollFailed | pollLate =>
    rw [answeredPoll_published, answeredPoll_board]
    exact ⟨h, absurd rfl⟩
  | polledSame hc =>
    have hsame : k.published = (k.board.onRoster (k.board.roster.reconcile _).1).view :=
      h.trans (Board.view_reconcile_of_unchanged hc).symm
    exact ⟨(answeredPoll_published ..).trans hsame, absurd (answeredPoll_published ..)⟩
  -- the other steps leave what is shown of the board as it was
  | _ => exact ⟨h, absurd rfl⟩

theorem published_scenes (hk : k.Sound) (h : k.published = k.board.view) (es : List (Nat × Event)) :
    ∀ x ∈ k.scenes es, x.after.published = x.after.board.view ∧
      (x.after.published ≠ x.before.published → Effect.published ∈ x.effects) := by
  induction es generalizing k with
  | nil => exact fun _ hx => absurd hx List.not_mem_nil
  | cons x rest ih =>
    have hstep := (step_handle hk.gated x.1 x.2).published h
    exact List.forall_mem_cons.2 ⟨hstep, ih (hk.handle x.1 x.2) hstep.1⟩

/-- **The published view is never stale.**  Whatever happens to a monitor, and in whatever order:

* after every step the view that is published is that of the board, and if it is another one than
  before the step, those who follow it are told;
* so it is in every course, between any two moves. -/
theorem published_view_current (set : Settings) (origin : Moment) :
    (∀ (h : List (Nat × Event)), ∀ x ∈ (initial set).scenes h,
      x.after.published = x.after.board.view ∧
        (x.after.published ≠ x.before.published → Effect.published ∈ x.effects)) ∧
      ∀ (ps : List Passage) (s : Station), Course set origin ps s →
        s.keeper.published = s.keeper.board.view := by
  refine ⟨fun h => published_scenes (sound_initial set) rfl h, fun ps s hc => ?_⟩
  exact hc.keeper_induction (P := fun k => k.published = k.board.view) rfl
    fun _ hs h => (hs.published h).1

end Keeper

end Overseer.Monitor
