import Overseer.Monitor.Board

/-!
# The board, operation by operation

What each operation makes of a board whose gate is in order (`Board.Gated`): the start that is
waited for is that of the current run, the run is under way, and a closing message is held only
while a start is waited for.  Every operation keeps the gate in order, whatever the epoch that it
is given, so a run ends in one way only (`Board.ended`), by whichever of its four ends.
-/

namespace Overseer.Batch.Lifecycle

theorem isIdle_iff {l : Lifecycle} : l.isIdle = true ↔ l = .idle := by
  cases l <;> simp [isIdle]

theorem isIdle_eq_false_iff {l : Lifecycle} : l.isIdle = false ↔ l ≠ .idle := by
  cases l <;> simp [isIdle]

end Overseer.Batch.Lifecycle

namespace Overseer.Monitor

open Overseer.Batch Overseer.Time

namespace Board

/-- The gate is in order. -/
structure Gated (b : Board) : Prop where
  /-- Only the start of the current run is waited for. -/
  current : ∀ {e}, b.awaiting = some e → e = b.epoch
  /-- It is waited for only while the run is under way. -/
  active : ∀ {e}, b.awaiting = some e → b.lifecycle ≠ .idle
  /-- A closing message is held only while a start is waited for. -/
  awaited : b.held = true → ∃ e, b.awaiting = some e

/-- The board after the end of its run. -/
def ended (b : Board) : Board :=
  { b with run := { b.run with lifecycle := .idle }, awaiting := none, held := false }

@[simp] theorem ended_lifecycle (b : Board) : b.ended.lifecycle = .idle := rfl
@[simp] theorem ended_epoch (b : Board) : b.ended.epoch = b.epoch := rfl
@[simp] theorem ended_roster (b : Board) : b.ended.roster = b.roster := rfl
@[simp] theorem ended_journal (b : Board) : b.ended.journal = b.journal := rfl
@[simp] theorem ended_awaiting (b : Board) : b.ended.awaiting = none := rfl
@[simp] theorem ended_held (b : Board) : b.ended.held = false := rfl

variable {b : Board} {e : Nat}

theorem Gated.awaiting_eq_none (hg : b.Gated) (hl : b.lifecycle = .idle) : b.awaiting = none := by
  cases ha : b.awaiting with
  | none => rfl
  | some e => exact absurd hl (hg.active ha)

theorem Gated.held_eq_false (hg : b.Gated) (ha : b.awaiting = none) : b.held = false := by
  cases hh : b.held with
  | false => rfl
  | true =>
    obtain ⟨e, he⟩ := hg.awaited hh
    rw [ha] at he
    cases he

theorem gated_of_awaiting_eq_none (ha : b.awaiting = none) (hh : b.held = false) : b.Gated :=
  ⟨by simp [ha], by simp [ha], by simp [hh]⟩

theorem gated_initial (s : Settings) : (initial s).Gated := gated_of_awaiting_eq_none rfl rfl

theorem gated_ended (b : Board) : b.ended.Gated := gated_of_awaiting_eq_none rfl rfl

theorem Gated.congr {b' : Board} (hg : b.Gated) (hr : b'.run = b.run)
    (ha : b'.awaiting = b.awaiting) (hh : b'.held = b.held) : b'.Gated := by
  refine ⟨fun {e} h => ?_, fun {e} h => ?_, fun h => ?_⟩
  · rw [epoch, hr]
    exact hg.current (ha ▸ h)
  · rw [lifecycle, hr]
    exact hg.active (ha ▸ h)
  · rw [ha]
    exact hg.awaited (hh ▸ h)

/-- The board with another roster. -/
def onRoster (b : Board) (r : Roster) : Board := { b with roster := r }

@[simp] theorem onRoster_lifecycle (b : Board) (r : Roster) :
    (b.onRoster r).lifecycle = b.lifecycle := rfl
@[simp] theorem onRoster_epoch (b : Board) (r : Roster) : (b.onRoster r).epoch = b.epoch := rfl
@[simp] theorem onRoster_roster (b : Board) (r : Roster) : (b.onRoster r).roster = r := rfl
@[simp] theorem onRoster_awaiting (b : Board) (r : Roster) :
    (b.onRoster r).awaiting = b.awaiting := rfl
@[simp] theorem onRoster_held (b : Board) (r : Roster) : (b.onRoster r).held = b.held := rfl

theorem Gated.onRoster (hg : b.Gated) (r : Roster) : (b.onRoster r).Gated := hg.congr rfl rfl rfl

/-! ### Loads and starts -/

theorem load_idle (hl : b.lifecycle = .idle) (l : List Account) :
    b.load l = .ok (b.onRoster (b.roster.replace l).1, (b.roster.replace l).2) := by
  simp [load, hl, Lifecycle.isIdle, Board.onRoster]

theorem load_active (hl : b.lifecycle ≠ .idle) (l : List Account) :
    b.load l = .error .alreadyRunning := by
  simp [load, Lifecycle.isIdle_eq_false_iff.2 hl]

/-- The board at the beginning of its next run. -/
def begun (b : Board) : Board :=
  { b with
    roster := b.roster.resetAll .pending
    journal := b.journal.clear
    run := ⟨.running, b.epoch + 1⟩
    awaiting := some (b.epoch + 1)
    held := false }

@[simp] theorem begun_lifecycle (b : Board) : b.begun.lifecycle = .running := rfl
@[simp] theorem begun_epoch (b : Board) : b.begun.epoch = b.epoch + 1 := rfl
@[simp] theorem begun_awaiting (b : Board) : b.begun.awaiting = some (b.epoch + 1) := rfl

theorem gated_begun (b : Board) : b.begun.Gated := by
  refine ⟨?_, ?_, ?_⟩ <;> simp [begun, lifecycle, epoch]

theorem beginRun_active (hl : b.lifecycle ≠ .idle) : b.beginRun = .error .alreadyRunning := by
  have h : b.run.lifecycle.isIdle = false := Lifecycle.isIdle_eq_false_iff.2 hl
  simp [beginRun, Run.begin, h]

theorem beginRun_empty (hl : b.lifecycle = .idle) (hs : b.roster.size = 0) :
    b.beginRun = .error .noAccounts := by
  have h : b.run.lifecycle.isIdle = true := Lifecycle.isIdle_iff.2 hl
  simp [beginRun, Run.begin, h, hs]

theorem beginRun_idle (hl : b.lifecycle = .idle) (hs : b.roster.size ≠ 0) :
    b.beginRun = .ok b.begun := by
  have h : b.run.lifecycle.isIdle = true := Lifecycle.isIdle_iff.2 hl
  simp [beginRun, Run.begin, h, hs, begun, epoch]

/-- A run begins on an idle board with accounts, and nowhere else. -/
theorem beginRun_eq_ok_iff {b' : Board} :
    b.beginRun = .ok b' ↔ b.lifecycle = .idle ∧ b.roster.size ≠ 0 ∧ b' = b.begun := by
  by_cases hl : b.lifecycle = .idle
  · by_cases hs : b.roster.size = 0
    · simp [beginRun_empty hl hs, hs]
    · simp [beginRun_idle hl hs, hl, hs, eq_comm]
  · simp [beginRun_active hl, hl]

/-! ### The engine's answer to a start -/

theorem acknowledge_held (hg : b.Gated) (ha : b.awaiting = some e) (hh : b.held = true) :
    b.acknowledge e = (b.ended, true) := by
  have h : b.run.lifecycle.isIdle = false := Lifecycle.isIdle_eq_false_iff.2 (hg.active ha)
  simp [acknowledge, ha, hh, Run.finish, h, ended]

/-- The board once the engine has taken the start of its run. -/
def opened (b : Board) : Board := { b with awaiting := none }

@[simp] theorem opened_lifecycle (b : Board) : b.opened.lifecycle = b.lifecycle := rfl
@[simp] theorem opened_epoch (b : Board) : b.opened.epoch = b.epoch := rfl
@[simp] theorem opened_roster (b : Board) : b.opened.roster = b.roster := rfl
@[simp] theorem opened_awaiting (b : Board) : b.opened.awaiting = none := rfl
@[simp] theorem opened_held (b : Board) : b.opened.held = b.held := rfl

theorem acknowledge_awaited (ha : b.awaiting = some e) (hh : b.held = false) :
    b.acknowledge e = (b.opened, false) := by
  simp [acknowledge, ha, hh, opened]

theorem acknowledge_other (ha : b.awaiting ≠ some e) : b.acknowledge e = (b, false) := by
  simp [acknowledge, ha]

/-- The board after the engine has refused the start of its run. -/
def refused (b : Board) (reason : String) : Board :=
  b.ended.onRoster (b.roster.setMessages (refusalMessage reason))

@[simp] theorem refused_lifecycle (b : Board) (reason : String) :
    (b.refused reason).lifecycle = .idle := rfl
@[simp] theorem refused_epoch (b : Board) (reason : String) :
    (b.refused reason).epoch = b.epoch := rfl
@[simp] theorem refused_awaiting (b : Board) (reason : String) :
    (b.refused reason).awaiting = none := rfl
@[simp] theorem refused_held (b : Board) (reason : String) : (b.refused reason).held = false := rfl

theorem rollback_current (hg : b.Gated) (he : e = b.epoch) (hl : b.lifecycle ≠ .idle)
    (reason : String) : b.rollback e reason = (b.refused reason, true) := by
  have h : b.run.lifecycle.isIdle = false := Lifecycle.isIdle_eq_false_iff.2 hl
  subst he
  by_cases ha : b.awaiting = some b.epoch
  · simp only [epoch] at ha
    simp [rollback, ha, Run.rollback, Run.isCurrent, h, refused, ended, Board.onRoster, epoch]
  · have hn : b.awaiting = none := by
      cases hb : b.awaiting with
      | none => rfl
      | some e => exact absurd (hg.current hb ▸ hb) ha
    have hf := hg.held_eq_false hn
    simp [rollback, hn, hf, Run.rollback, Run.isCurrent, h, refused, ended, Board.onRoster, epoch]

theorem rollback_other (hg : b.Gated) (h : e ≠ b.epoch ∨ b.lifecycle = .idle) (reason : String) :
    b.rollback e reason = (b, false) := by
  have ha : b.awaiting ≠ some e := by
    intro ha
    rcases h with h | h
    · exact h (hg.current ha)
    · exact hg.active ha h
  have hr : b.run.rollback e = (b.run, false) := by
    rcases h with h | h
    · have h' : (e == b.run.epoch) = false := beq_false_of_ne h
      simp [Run.rollback, Run.isCurrent, h']
    · have h' : b.run.lifecycle.isIdle = true := Lifecycle.isIdle_iff.2 h
      simp [Run.rollback, h']
  simp [rollback, ha, hr]

/-! ### Log events -/

/-- The board with one log event more. -/
def logged (b : Board) (x : LogEvent) (at_ : Moment) : Board :=
  { b with journal := b.journal.append x at_ }

@[simp] theorem logged_lifecycle (b : Board) (x : LogEvent) (at_ : Moment) :
    (b.logged x at_).lifecycle = b.lifecycle := rfl
@[simp] theorem logged_epoch (b : Board) (x : LogEvent) (at_ : Moment) :
    (b.logged x at_).epoch = b.epoch := rfl
@[simp] theorem logged_roster (b : Board) (x : LogEvent) (at_ : Moment) :
    (b.logged x at_).roster = b.roster := rfl
@[simp] theorem logged_awaiting (b : Board) (x : LogEvent) (at_ : Moment) :
    (b.logged x at_).awaiting = b.awaiting := rfl
@[simp] theorem logged_held (b : Board) (x : LogEvent) (at_ : Moment) :
    (b.logged x at_).held = b.held := rfl

theorem Gated.logged (hg : b.Gated) (x : LogEvent) (at_ : Moment) : (b.logged x at_).Gated :=
  hg.congr rfl rfl rfl

/-- The board with a closing message that waits for the engine to take the start. -/
def holding (b : Board) : Board := { b with held := true }

@[simp] theorem holding_lifecycle (b : Board) : b.holding.lifecycle = b.lifecycle := rfl
@[simp] theorem holding_epoch (b : Board) : b.holding.epoch = b.epoch := rfl
@[simp] theorem holding_roster (b : Board) : b.holding.roster = b.roster := rfl
@[simp] theorem holding_awaiting (b : Board) : b.holding.awaiting = b.awaiting := rfl
@[simp] theorem holding_held (b : Board) : b.holding.held = true := rfl

theorem Gated.holding (hg : b.Gated) (ha : b.awaiting = some e) : b.holding.Gated :=
  ⟨hg.current, hg.active, fun _ => ⟨e, ha⟩⟩

variable {x : LogEvent}

theorem ingest_plain (h : x.closing = false ∨ b.lifecycle = .idle) (at_ : Moment) :
    b.ingest x at_ = (b.logged x at_, ⟨b.journal.entryOf x at_, false⟩) := by
  have h' : x.closing = false ∨ b.run.lifecycle.isIdle = true :=
    h.imp_right Lifecycle.isIdle_iff.2
  simp [ingest, Board.logged, lifecycle, h']

theorem ingest_held (hx : x.closing = true) (hl : b.lifecycle ≠ .idle) (ha : b.awaiting = some e)
    (at_ : Moment) : b.ingest x at_ =
      ((b.logged x at_).holding, ⟨b.journal.entryOf x at_, false⟩) := by
  have h : b.run.lifecycle.isIdle = false := Lifecycle.isIdle_eq_false_iff.2 hl
  simp [ingest, Board.logged, Board.holding, lifecycle, h, hx, ha]

theorem ingest_closing (hg : b.Gated) (hx : x.closing = true) (hl : b.lifecycle ≠ .idle)
    (ha : b.awaiting = none) (at_ : Moment) :
    b.ingest x at_ = ((b.logged x at_).ended, ⟨b.journal.entryOf x at_, true⟩) := by
  have h : b.run.lifecycle.isIdle = false := Lifecycle.isIdle_eq_false_iff.2 hl
  have hh := hg.held_eq_false ha
  simp [ingest, Board.logged, lifecycle, h, hx, ha, hh, Run.finish, ended]

/-! ### Stops -/

/-- The board once its run was asked to stop. -/
def stopping (b : Board) : Board := { b with run := { b.run with lifecycle := .stopping } }

@[simp] theorem stopping_lifecycle (b : Board) : b.stopping.lifecycle = .stopping := rfl
@[simp] theorem stopping_epoch (b : Board) : b.stopping.epoch = b.epoch := rfl
@[simp] theorem stopping_awaiting (b : Board) : b.stopping.awaiting = b.awaiting := rfl

theorem gated_stopping (hg : b.Gated) : b.stopping.Gated := by
  refine ⟨fun h => hg.current h, fun _ => ?_, hg.awaited⟩
  simp

theorem beginStop_idle (hl : b.lifecycle = .idle) : b.beginStop = (b, .alreadyIdle) := by
  have hl : b.run.lifecycle = .idle := hl
  simp [beginStop, Run.beginStop, hl]

theorem beginStop_running (hl : b.lifecycle = .running) :
    b.beginStop = (b.stopping, .requested) := by
  have hl : b.run.lifecycle = .running := hl
  simp [beginStop, Run.beginStop, hl, stopping]

theorem beginStop_stopping (hl : b.lifecycle = .stopping) :
    b.beginStop = (b, .alreadyStopping) := by
  have hl : b.run.lifecycle = .stopping := hl
  simp [beginStop, Run.beginStop, hl]

theorem forceIdle_active (hl : b.lifecycle ≠ .idle) : b.forceIdle = (b.ended, true) := by
  have h : b.run.lifecycle.isIdle = false := Lifecycle.isIdle_eq_false_iff.2 hl
  simp [forceIdle, Run.finish, h, ended]

theorem forceIdle_idle (hg : b.Gated) (hl : b.lifecycle = .idle) : b.forceIdle = (b, false) := by
  have h : b.run.lifecycle.isIdle = true := Lifecycle.isIdle_iff.2 hl
  have ha := hg.awaiting_eq_none hl
  simp [forceIdle, Run.finish, h, ← ha, ← hg.held_eq_false ha]

/-! ### Answers to questions for the status -/

theorem applyPoll_current (s : Snapshot) (he : e = b.epoch) :
    b.applyPoll e s = some (b.onRoster (b.roster.reconcile s).1, (b.roster.reconcile s).2) := by
  simp [applyPoll, Run.isCurrent, he, epoch, Board.onRoster]

theorem applyPoll_other (s : Snapshot) (he : e ≠ b.epoch) : b.applyPoll e s = none := by
  have h : (e == b.run.epoch) = false := beq_false_of_ne he
  simp [applyPoll, Run.isCurrent, h]

end Board

end Overseer.Monitor
