import Overseer.Proofs.Monitor.Moves

/-!
# The control of a run

Whether a run is under way, whether its start is waited for, and who waits for its end: these parts
of a keeper (`Control`) change by what happens and by nothing else that the keeper knows, apart from
whether there are accounts to start with.

* `Control.End` : the four ends of a run, each with what those who wait for it are told.
* `Control.Turn` : all that an event can do to the control of a run.
* `Keeper.Step.turn` : a step of the keeper is a turn of its control.
* `Keeper.Step.told` : a step that ends a run is one of the four ends, and tells all who wait.
-/

namespace Overseer.Monitor

open Overseer.Batch Overseer.Time

/-- Where a run stands, and who waits for its end. -/
structure Control where
  lifecycle : Lifecycle
  epoch : Nat
  /-- The run whose start the engine has not taken yet. -/
  awaiting : Option Nat
  /-- Whether a closing message came before that. -/
  held : Bool
  /-- The callers who wait for the end of the run. -/
  waiters : List Nat
  /-- When the time for a stop is over. -/
  deadline : Option Nat
  /-- Why the engine did not take the request to stop. -/
  stopError : Option String

/-- The control of the run. -/
def Keeper.control (k : Keeper) : Control :=
  ⟨k.board.lifecycle, k.board.epoch, k.board.awaiting, k.board.held, k.waiters, k.deadline,
    k.stopError⟩

namespace Control

/-- The control after the end of the run. -/
def ended (c : Control) : Control :=
  { c with
    lifecycle := .idle
    awaiting := none
    held := false
    waiters := []
    deadline := none
    stopError := none }

/-- How a run ends, with what those who wait for its end are told. -/
inductive End (c : Control) : Event → Reply → Prop where
  /-- The engine says that the run is over. -/
  | closed {x at_} (hx : x.closing = true) (ha : c.awaiting = none) :
      End c (.log x at_) (.stopped .confirmed)
  /-- The engine takes the start, and has said before that the run is over. -/
  | takenOver {w} (ha : c.awaiting = some c.epoch) (hh : c.held = true) :
      End c (.returned (.started w c.epoch (.ok ()))) (.stopped .confirmed)
  /-- The engine refuses the start. -/
  | refused {w err} : End c (.returned (.started w c.epoch (.error err))) (.stopped .runAborted)
  /-- The time for a stop is over, and the engine did not take the request to stop. -/
  | failed {why} (he : c.stopError = some why) : End c .deadline (.error (.remoteFailed why))
  /-- The time for a stop is over. -/
  | timedOut (he : c.stopError = none) : End c .deadline (.stopped .timedOut)

/-- All that an event at a time `now` can do to the control of a run, with the calls about a run
that are made for it. -/
inductive Turn (c : Control) (timeout now : Nat) : Event → Control → List Ticket → Prop where
  /-- A run begins. -/
  | begin {w p} (hl : c.lifecycle = .idle) :
      Turn c timeout now (.request w (.start p))
        { c with
          lifecycle := .running
          epoch := c.epoch + 1
          awaiting := some (c.epoch + 1)
          held := false }
        [.start w (c.epoch + 1)]
  /-- The run is to stop. -/
  | stop {w} (hl : c.lifecycle = .running) :
      Turn c timeout now (.request w .stop)
        { c with
          lifecycle := .stopping
          waiters := c.waiters ++ [w]
          deadline := some (now + timeout)
          stopError := none }
        [.stop c.epoch]
  /-- The run is to stop already. -/
  | join {w} (hl : c.lifecycle = .stopping) :
      Turn c timeout now (.request w .stop) { c with waiters := c.waiters ++ [w] } []
  /-- The engine has not taken the request to stop the run. -/
  | fail {err} (hw : c.waiters ≠ []) :
      Turn c timeout now (.returned (.stopped c.epoch (.error err)))
        { c with stopError := some err.message } []
  /-- The engine has taken the start. -/
  | opened {w} (ha : c.awaiting = some c.epoch) (hh : c.held = false) :
      Turn c timeout now (.returned (.started w c.epoch (.ok ()))) { c with awaiting := none } []
  /-- The engine says that the run is over before it takes the start. -/
  | hold {x at_} (hx : x.closing = true) (hl : c.lifecycle ≠ .idle)
      (ha : c.awaiting = some c.epoch) :
      Turn c timeout now (.log x at_) { c with held := true } []
  /-- The run ends. -/
  | ended {e r} (hl : c.lifecycle ≠ .idle) (hr : c.End e r) : Turn c timeout now e c.ended []
  /-- The time for a stop is over, but nothing runs. -/
  | expire (hl : c.lifecycle = .idle) :
      Turn c timeout now .deadline { c with waiters := [], deadline := none, stopError := none } []
  /-- Nothing changes: this is no stop of a run under way, no closing message for one, and no
  failed request to stop that somebody waits for. -/
  | same {e} (hs : ∀ w, e = .request w .stop → c.lifecycle = .idle)
      (hx : ∀ x at_, e = .log x at_ → x.closing = true → c.lifecycle = .idle)
      (hf : ∀ n err, e = .returned (.stopped n (.error err)) → n ≠ c.epoch ∨ c.waiters = [])
      (hd : e ≠ .deadline) :
      Turn c timeout now e c []

namespace Turn

variable {c c' : Control} {timeout now : Nat} {e : Event} {ts : List Ticket}

theorem of_stop {w : Nat} (ht : c.Turn timeout now (.request w .stop) c' ts)
    (hl : c.lifecycle ≠ .idle) : c'.lifecycle = .stopping ∧ c'.epoch = c.epoch := by
  cases ht with
  | stop => exact ⟨rfl, rfl⟩
  | join hs => exact ⟨hs, rfl⟩
  | ended _ hr => cases hr
  | same hs => exact absurd (hs w rfl) hl

theorem of_stopping (ht : c.Turn timeout now e c' ts) (hl : c.lifecycle = .stopping) :
    c'.epoch = c.epoch ∧ (c'.lifecycle = .stopping ∨ c'.lifecycle = .idle) := by
  cases ht with
  | begin h | stop h | expire h => exact absurd (h.symm.trans hl) (by simp)
  | ended => exact ⟨rfl, .inr rfl⟩
  | _ => exact ⟨rfl, .inl hl⟩

theorem of_deadline (ht : c.Turn timeout now .deadline c' ts) : c'.lifecycle = .idle := by
  cases ht with
  | ended => rfl
  | expire hl => exact hl
  | same _ _ _ hd => exact absurd rfl hd

end Turn

end Control

/-- The call is about a run as a whole. -/
def Ticket.ofRun : Ticket → Bool
  | .start .. | .stop _ => true
  | _ => false

namespace Keeper

variable {k k' : Keeper} {now : Nat} {e : Event} {l : List Effect}

/-- The calls about a run as a whole among what is done. -/
def runCalls (l : List Effect) : List Ticket :=
  ((l.filterMap Effect.call?).map (·.ticket)).filter Ticket.ofRun

theorem answeredPoll_control (k : Keeper) (e : Nat) (sch : Bool) :
    (k.answeredPoll e sch).control = k.control := by
  unfold answeredPoll
  split <;> rfl

theorem answeredPoll_showing_control (k : Keeper) (e : Nat) (sch : Bool) (r : Roster) :
    ((k.answeredPoll e sch).showing (k.board.onRoster r)).control = k.control := by
  unfold answeredPoll
  split <;> rfl

theorem answeredPoll_onBoard_control (k : Keeper) (e : Nat) (sch : Bool) (r : Roster) :
    ((k.answeredPoll e sch).onBoard (k.board.onRoster r)).control = k.control :=
  answeredPoll_showing_control k e sch r

theorem runCalls_append (a b : List Effect) : runCalls (a ++ b) = runCalls a ++ runCalls b := by
  simp [runCalls]

theorem runCalls_tell (k : Keeper) (r : Reply) : runCalls (k.tell r) = [] := by
  rw [runCalls, tell_calls]
  rfl

theorem end_deadline (k : Keeper) : k.control.End .deadline k.lateReply := by
  unfold lateReply
  cases h : k.stopError with
  | some why => exact .failed h
  | none => exact .timedOut h

/-- **A step of the keeper is a turn of its control.** -/
theorem Step.turn (hs : k.Step now e k' l) :
    k.control.Turn k.settings.stopTimeout now e k'.control (runCalls l) := by
  cases hs with
  | start hl => exact .begin hl
  | stop hl => exact .stop hl
  | stopAgain hl => exact .join hl
  | stopIdle hl => exact .same (fun _ _ => hl) (by simp) (by simp) (by simp)
  | taken ha hh => exact .opened ha hh
  | takenOver ha hh hl =>
    rw [runCalls_append, runCalls_append, runCalls_tell]
    exact .ended hl (.takenOver ha hh)
  | refused hl =>
    rw [runCalls_append, ← List.singleton_append, runCalls_append, runCalls_tell]
    exact .ended hl .refused
  | closed hx hl ha =>
    rw [runCalls_append, runCalls_append, runCalls_tell]
    exact .ended hl (.closed hx ha)
  | expired hl =>
    rw [runCalls_append, runCalls_tell]
    exact .ended hl k.end_deadline
  | expiredIdle hl =>
    rw [runCalls_tell]
    exact .expire hl
  | stopFailed hw => exact .fail hw
  | stopFailedLate h =>
    refine .same (by simp) (by simp) (fun n err he => ?_) (by simp)
    cases he
    exact h
  | logged hx =>
    refine .same (by simp) (fun x at_ he hc => ?_) (by simp) (by simp)
    cases he
    exact hx.resolve_left (by simp [hc])
  | heldBack hx hl ha => exact .hold hx hl ha
  | pollFailed | pollLate =>
    rw [answeredPoll_control]
    exact .same (by simp) (by simp) (by simp) (by simp)
  | polled =>
    rw [answeredPoll_showing_control]
    exact .same (by simp) (by simp) (by simp) (by simp)
  | polledSame =>
    rw [answeredPoll_onBoard_control]
    exact .same (by simp) (by simp) (by simp) (by simp)
  | _ => exact .same (by simp) (by simp) (by simp) (by simp)

/-- **A step that ends a run** is one of its four ends, and tells all who wait. -/
theorem Step.told (hs : k.Step now e k' l) (hl : k.board.lifecycle ≠ .idle)
    (hl' : k'.board.lifecycle = .idle) :
    ∃ r, k.control.End e r ∧ ∀ w ∈ k.waiters, (w, r) ∈ l.filterMap Effect.reply? := by
  -- those who wait are told, wherever that stands among the effects
  have hmem : ∀ (r : Reply) (a b : List Effect), ∀ w ∈ k.waiters,
      (w, r) ∈ (a ++ k.tell r ++ b).filterMap Effect.reply? := by
    intro r a b w hw
    rw [List.filterMap_append, List.filterMap_append, tell_replies]
    exact List.mem_append_left _ (List.mem_append_right _ (List.mem_map_of_mem hw))
  cases hs with
  | takenOver ha hh => exact ⟨_, .takenOver ha hh, hmem _ _ _⟩
  | refused => exact ⟨_, .refused, hmem _ [.published] _⟩
  | closed hx _ ha => exact ⟨_, .closed hx ha, hmem _ _ _⟩
  | expired =>
    have h := hmem k.lateReply [.call (.poll k.board.epoch false), .published] []
    rw [List.append_nil] at h
    exact ⟨_, k.end_deadline, h⟩
  | start | stop => cases hl'
  -- the other steps do not end a run
  | pollFailed | pollLate => exact absurd (answeredPoll_board k _ _ ▸ hl') hl
  | _ => exact absurd hl' hl

end Keeper

/-! ### Along a course -/

/-- The calls about a run as a whole that are made in a passage. -/
def Passage.runCalls (p : Passage) : List Ticket := (p.calls.map (·.ticket)).filter Ticket.ofRun

theorem Passage.turn {p : Passage} (hm : p.before.Moved p.move p.after p.notices)
    (hk : p.before.keeper.Sound) {e : Event} (he : p.event? = some e) :
    p.before.keeper.control.Turn p.before.keeper.settings.stopTimeout p.before.now e
      p.after.keeper.control p.runCalls := by
  obtain ⟨l, hs, -, hc⟩ := step hm hk he
  rw [runCalls, hc]
  exact hs.turn

theorem Passage.told {p : Passage} (hm : p.before.Moved p.move p.after p.notices)
    (hk : p.before.keeper.Sound) {e : Event} (he : p.event? = some e)
    (hl : p.before.keeper.board.lifecycle ≠ .idle) (hl' : p.after.keeper.board.lifecycle = .idle) :
    ∃ r, p.before.keeper.control.End e r ∧ ∀ w ∈ p.before.keeper.waiters, (w, r) ∈ p.replies := by
  obtain ⟨l, hs, hr, -⟩ := step hm hk he
  rw [hr]
  exact hs.told hl hl'

/-- What holds at the beginning, and is kept by what is no event and by every turn, holds of the
past and the control after every course. -/
theorem Course.control_induction {set : Settings} {origin : Moment} {ps : List Passage}
    {s : Station} (h : Course set origin ps s) {P : List Passage → Control → Prop}
    (hstart : P [] (Keeper.initial set).control)
    (hquiet : ∀ {ps : List Passage} {p : Passage}, p.event? = none → p.calls = [] →
      P ps p.before.keeper.control → P (ps ++ [p]) p.before.keeper.control)
    (hturn : ∀ {ps : List Passage} {p : Passage} {e : Event} {c : Control} {ts : List Ticket},
      Course set origin ps p.before → p.event? = some e → p.runCalls = ts →
        p.before.keeper.control.Turn set.stopTimeout p.before.now e c ts →
          P ps p.before.keeper.control → P (ps ++ [p]) c) :
    P ps s.keeper.control := by
  induction h with
  | start => exact hstart
  | @next ps s m s' ns h _ hm ih =>
    obtain ⟨hk, hset⟩ := h.sound
    have hmv : (Passage.mk s m s' ns).before.Moved m s' ns := Station.moved_of_move hm
    cases he : (Passage.mk s m s' ns).event? with
    | none =>
      obtain ⟨hq, hcalls⟩ := Passage.quiet hmv he
      have hc : s'.keeper.control = s.keeper.control := congrArg Keeper.control hq
      rw [hc]
      exact hquiet he hcalls ih
    | some e =>
      have ht := Passage.turn hmv hk he
      dsimp only at ht
      rw [hset] at ht
      exact hturn h he rfl ht ih

end Overseer.Monitor
