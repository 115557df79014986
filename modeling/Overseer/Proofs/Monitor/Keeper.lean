import Mathlib.Logic.Basic
import Overseer.Monitor.Keeper
import Overseer.Proofs.Monitor.Board

/-!
# What a monitor does, event by event

`Keeper.Step` lists all that can come of one event, each case with what must hold for it, the
state after it and what the monitor does.  `Keeper.step_handle` says that `Keeper.handle` does
nothing else on a board whose gate is in order, so what a monitor keeps over an event is shown by
cases over `Step`, without a look at the handlers.  `Keeper.sound_run` is the first use of it: the
gate is in order after every history.
-/

namespace Overseer.Monitor

open Overseer.Batch Overseer.Time

theorem Turn.andThen_mk (k : Keeper) (l : List Effect) (f : Keeper → Turn) :
    Turn.andThen (k, l) f = ((f k).1, l ++ (f k).2) := rfl

namespace Keeper

/-- The monitor with another board. -/
def onBoard (k : Keeper) (b : Board) : Keeper := { k with board := b }

/-- The monitor with another board, which it has published. -/
def showing (k : Keeper) (b : Board) : Keeper := { k with board := b, published := b.view }

/-- The monitor with nobody who waits for the end of a run. -/
def unattended (k : Keeper) : Keeper :=
  { k with waiters := [], deadline := none, stopError := none }

/-- The monitor once the answer to a question is in: the timer may ask again if the question was
its last one. -/
def answeredPoll (k : Keeper) (epoch : Nat) (scheduled : Bool) : Keeper :=
  if scheduled ∧ k.timerPoll = some epoch then { k with timerPoll := none } else k

/-- What those who wait for the end of the run are told. -/
def tell (k : Keeper) (r : Reply) : List Effect := k.waiters.map fun w => .reply w r

/-- What those who wait are told when their time is over. -/
def lateReply (k : Keeper) : Reply :=
  match k.stopError with
  | some why => .error (.remoteFailed why)
  | none => .stopped .timedOut

/-- All that can come of one event at a time `now`: the state after it and what is done. -/
inductive Step (k : Keeper) (now : Nat) : Event → Keeper → List Effect → Prop where
  /-- The accounts are asked for. -/
  | load {c} (hl : k.board.lifecycle = .idle) :
      Step k now (.request c .load) k [.call (.load c)]
  /-- There is no load during a run. -/
  | loadDenied {c} (hl : k.board.lifecycle ≠ .idle) :
      Step k now (.request c .load) k [.reply c (.error .alreadyRunning)]
  /-- A run begins. -/
  | start {c p} (hl : k.board.lifecycle = .idle) (hs : k.board.roster.size ≠ 0) :
      Step k now (.request c (.start p)) (k.showing k.board.begun)
        [.published, .call (.start c (k.board.epoch + 1) p)]
  /-- There is no start during a run. -/
  | startDenied {c p} (hl : k.board.lifecycle ≠ .idle) :
      Step k now (.request c (.start p)) k [.reply c (.error .alreadyRunning)]
  /-- There is no start without accounts. -/
  | startEmpty {c p} (hl : k.board.lifecycle = .idle) (hs : k.board.roster.size = 0) :
      Step k now (.request c (.start p)) k [.reply c (.error .noAccounts)]
  /-- There is nothing to stop. -/
  | stopIdle {c} (hl : k.board.lifecycle = .idle) :
      Step k now (.request c .stop) k [.reply c (.stopped .alreadyIdle)]
  /-- The run is to stop. -/
  | stop {c} (hl : k.board.lifecycle = .running) :
      Step k now (.request c .stop)
        { k.showing k.board.stopping with
          waiters := k.waiters ++ [c]
          deadline := some (now + k.settings.stopTimeout)
          stopError := none }
        [.published, .call (.stop k.board.epoch)]
  /-- The run is to stop already. -/
  | stopAgain {c} (hl : k.board.lifecycle = .stopping) :
      Step k now (.request c .stop) { k with waiters := k.waiters ++ [c] } []
  /-- What is known is shown. -/
  | view {c} : Step k now (.request c .view) k [.reply c (.view k.board.view)]
  /-- The end of the monitor is no matter of the board. -/
  | shutdown {c} : Step k now (.request c .shutdown) k []
  | loadFailed {c e} :
      Step k now (.returned (.loaded c (.error e))) k [.reply c (.error (.ofSource e))]
  /-- The accounts come while a run is under way. -/
  | loadLate {c l} (hl : k.board.lifecycle ≠ .idle) :
      Step k now (.returned (.loaded c (.ok l))) k [.reply c (.error .alreadyRunning)]
  /-- The accounts are there. -/
  | loaded {c l} (hl : k.board.lifecycle = .idle) :
      Step k now (.returned (.loaded c (.ok l)))
        (k.showing (k.board.onRoster (k.board.roster.replace l).1))
        [.published, .reply c (.accounts (k.board.roster.replace l).1.accounts)]
  /-- The engine has taken a start that nobody waits for any more. -/
  | takenLate {c e} (ha : k.board.awaiting ≠ some e)
      (hl : e ≠ k.board.epoch ∨ k.board.lifecycle = .idle) :
      Step k now (.returned (.started c e (.ok ()))) k [.reply c (.epoch e)]
  /-- The engine takes a start twice. -/
  | takenTwice {c} (ha : k.board.awaiting ≠ some k.board.epoch)
      (hl : k.board.lifecycle ≠ .idle) :
      Step k now (.returned (.started c k.board.epoch (.ok ())))
        { k with nextTick := now + k.settings.pollPeriod }
        [.reply c (.epoch k.board.epoch), .call (.poll k.board.epoch false)]
  /-- The engine has taken the start that is waited for. -/
  | taken {c} (ha : k.board.awaiting = some k.board.epoch) (hh : k.board.held = false)
      (hl : k.board.lifecycle ≠ .idle) :
      Step k now (.returned (.started c k.board.epoch (.ok ())))
        { k.onBoard k.board.opened with
          nextTick := now + k.settings.pollPeriod }
        [.reply c (.epoch k.board.epoch), .call (.poll k.board.epoch false)]
  /-- The engine has taken the start that is waited for, and a held message ends the run. -/
  | takenOver {c} (ha : k.board.awaiting = some k.board.epoch) (hh : k.board.held = true)
      (hl : k.board.lifecycle ≠ .idle) :
      Step k now (.returned (.started c k.board.epoch (.ok ())))
        (k.unattended.showing k.board.ended)
        ([.reply c (.epoch k.board.epoch), .call (.poll k.board.epoch false)] ++
          k.tell (.stopped .confirmed) ++ [.published])
  /-- The engine has refused the start of the run. -/
  | refused {c err} (hl : k.board.lifecycle ≠ .idle) :
      Step k now (.returned (.started c k.board.epoch (.error err)))
        (k.unattended.showing (k.board.refused err.message))
        (.published :: k.tell (.stopped .runAborted) ++ [.reply c (.error (.ofRemote err))])
  /-- The engine has refused a start that nobody waits for any more. -/
  | refusedLate {c e err} (hl : e ≠ k.board.epoch ∨ k.board.lifecycle = .idle) :
      Step k now (.returned (.started c e (.error err))) k [.reply c (.error (.ofRemote err))]
  /-- The engine has taken the request to stop. -/
  | stopTaken {e} : Step k now (.returned (.stopped e (.ok ()))) k []
  /-- The engine has not taken the request to stop the run. -/
  | stopFailed {err} (hw : k.waiters ≠ []) :
      Step k now (.returned (.stopped k.board.epoch (.error err)))
        { k with stopError := some err.message } []
  /-- The engine has not taken a request to stop that nobody waits for. -/
  | stopFailedLate {e err} (h : e ≠ k.board.epoch ∨ k.waiters = []) :
      Step k now (.returned (.stopped e (.error err))) k []
  /-- The engine has no status. -/
  | pollFailed {e sch err} :
      Step k now (.returned (.polled e sch (.error err))) (k.answeredPoll e sch) []
  /-- The status is about another run. -/
  | pollLate {e sch s} (he : e ≠ k.board.epoch) :
      Step k now (.returned (.polled e sch (.ok s))) (k.answeredPoll e sch) []
  /-- The status has news. -/
  | polled {sch s} (hc : (k.board.roster.reconcile s).2.hasChanges = true) :
      Step k now (.returned (.polled k.board.epoch sch (.ok s)))
        ((k.answeredPoll k.board.epoch sch).showing
          (k.board.onRoster (k.board.roster.reconcile s).1))
        [.published]
  /-- The status has no news. -/
  | polledSame {sch s} (hc : (k.board.roster.reconcile s).2.hasChanges = false) :
      Step k now (.returned (.polled k.board.epoch sch (.ok s)))
        ((k.answeredPoll k.board.epoch sch).onBoard
          (k.board.onRoster (k.board.roster.reconcile s).1)) []
  /-- A log event that ends nothing. -/
  | logged {x at_} (hx : x.closing = false ∨ k.board.lifecycle = .idle) :
      Step k now (.log x at_) (k.showing (k.board.logged x at_))
        [.entry (k.board.journal.entryOf x at_), .published]
  /-- A closing message before the engine has taken the start. -/
  | heldBack {x at_} (hx : x.closing = true) (hl : k.board.lifecycle ≠ .idle)
      (ha : k.board.awaiting = some k.board.epoch) :
      Step k now (.log x at_) (k.showing (k.board.logged x at_).holding)
        [.entry (k.board.journal.entryOf x at_), .published]
  /-- A closing message that ends the run. -/
  | closed {x at_} (hx : x.closing = true) (hl : k.board.lifecycle ≠ .idle)
      (ha : k.board.awaiting = none) :
      Step k now (.log x at_) (k.unattended.showing (k.board.logged x at_).ended)
        ([.entry (k.board.journal.entryOf x at_), .call (.poll k.board.epoch false)] ++
          k.tell (.stopped .confirmed) ++ [.published])
  /-- The timer asks. -/
  | tick (ht : k.timerPoll ≠ some k.board.epoch) :
      Step k now .tick
        { k with nextTick := now + k.settings.pollPeriod, timerPoll := some k.board.epoch }
        [.call (.poll k.board.epoch true)]
  /-- The timer has asked already. -/
  | tickBusy (ht : k.timerPoll = some k.board.epoch) :
      Step k now .tick { k with nextTick := now + k.settings.pollPeriod } []
  /-- The time for a stop is over. -/
  | expired (hl : k.board.lifecycle ≠ .idle) :
      Step k now .deadline (k.unattended.showing k.board.ended)
        ([.call (.poll k.board.epoch false), .published] ++ k.tell k.lateReply)
  /-- The time for a stop is over, but nothing runs. -/
  | expiredIdle (hl : k.board.lifecycle = .idle) :
      Step k now .deadline k.unattended (k.tell k.lateReply)

variable {k : Keeper} {now : Nat}

/-! ### Nothing else happens -/

theorem answeredPoll_board (k : Keeper) (e : Nat) (sch : Bool) :
    (k.answeredPoll e sch).board = k.board := by
  unfold answeredPoll
  split <;> rfl

theorem answeredPoll_timerPoll {e n : Nat} {sch : Bool}
    (h : (k.answeredPoll e sch).timerPoll = some n) : k.timerPoll = some n := by
  unfold answeredPoll at h
  split at h
  · cases h
  · exact h

theorem step_request (c : Nat) (r : Request) :
    k.Step now (.request c r) (k.handle now (.request c r)).1 (k.handle now (.request c r)).2 := by
  cases r with
  | load =>
    cases hl : k.board.lifecycle.isIdle with
    | true => simpa [handle, answer, Keeper.load, hl] using .load (Lifecycle.isIdle_iff.1 hl)
    | false =>
      simpa [handle, answer, Keeper.load, hl] using
        .loadDenied (Lifecycle.isIdle_eq_false_iff.1 hl)
  | start p =>
    by_cases hl : k.board.lifecycle = .idle
    · by_cases hs : k.board.roster.size = 0
      · simpa [handle, answer, Keeper.start, Board.beginRun_empty hl hs] using .startEmpty hl hs
      · simpa [handle, answer, Keeper.start, Board.beginRun_idle hl hs] using .start hl hs
    · simpa [handle, answer, Keeper.start, Board.beginRun_active hl] using .startDenied hl
  | stop =>
    cases hl : k.board.lifecycle with
    | idle => simpa [handle, answer, Keeper.stop, Board.beginStop_idle hl] using .stopIdle hl
    | running => simpa [handle, answer, Keeper.stop, Board.beginStop_running hl] using .stop hl
    | stopping =>
      simpa [handle, answer, Keeper.stop, Board.beginStop_stopping hl] using .stopAgain hl
  | view => exact .view
  | shutdown => exact .shutdown

theorem step_loaded (c : Nat) (res : Except SourceError (List Account)) :
    k.Step now (.returned (.loaded c res)) (k.loaded c res).1 (k.loaded c res).2 := by
  cases res with
  | error e => exact .loadFailed
  | ok l =>
    by_cases hl : k.board.lifecycle = .idle
    · simpa [Keeper.loaded, Board.load_idle hl] using .loaded hl
    · simpa [Keeper.loaded, Board.load_active hl] using .loadLate hl

theorem step_startTaken (hg : k.board.Gated) (c e : Nat) :
    k.Step now (.returned (.started c e (.ok ()))) (k.startTaken now c e).1
      (k.startTaken now c e).2 := by
  by_cases ha : k.board.awaiting = some e
  · -- only the start of the current run is ever waited for
    obtain rfl := hg.current ha
    have hl := hg.active ha
    cases hh : k.board.held with
    | true => simpa [startTaken, Board.acknowledge_held hg ha hh] using .takenOver ha hh hl
    | false =>
      have hi : k.board.lifecycle.isIdle = false := Lifecycle.isIdle_eq_false_iff.2 hl
      simpa [startTaken, Board.acknowledge_awaited ha hh, Turn.andThen_mk, ask, onBoard, hi]
        using .taken ha hh hl
  · by_cases h : e = k.board.epoch ∧ k.board.lifecycle ≠ .idle
    · obtain ⟨rfl, hl⟩ := h
      have hi : k.board.lifecycle.isIdle = false := Lifecycle.isIdle_eq_false_iff.2 hl
      simpa [startTaken, Board.acknowledge_other ha, Turn.andThen_mk, ask, hi] using
        .takenTwice ha hl
    · have hn : ¬(k.board.epoch = e ∧ k.board.lifecycle.isIdle = false) := by
        rintro ⟨rfl, hi⟩
        exact h ⟨rfl, Lifecycle.isIdle_eq_false_iff.1 hi⟩
      have h' : e ≠ k.board.epoch ∨ k.board.lifecycle = .idle := by
        rwa [not_and_or, not_ne_iff] at h
      simpa [startTaken, Board.acknowledge_other ha, Turn.andThen_mk, hn] using .takenLate ha h'

theorem step_startRefused (hg : k.board.Gated) (c e : Nat) (err : RemoteError) :
    k.Step now (.returned (.started c e (.error err))) (k.startRefused c e err).1
      (k.startRefused c e err).2 := by
  by_cases h : e = k.board.epoch ∧ k.board.lifecycle ≠ .idle
  · obtain ⟨rfl, hl⟩ := h
    simpa [startRefused, Board.rollback_current hg rfl hl] using .refused hl
  · have h' : e ≠ k.board.epoch ∨ k.board.lifecycle = .idle := by
      rwa [not_and_or, not_ne_iff] at h
    simpa [startRefused, Board.rollback_other hg h'] using .refusedLate h'

theorem step_stopAnswered (e : Nat) (res : Except RemoteError Unit) :
    k.Step now (.returned (.stopped e res)) (k.stopAnswered e res).1 (k.stopAnswered e res).2 := by
  cases res with
  | ok u => exact .stopTaken
  | error err =>
    by_cases h : k.board.epoch = e ∧ k.waiters ≠ []
    · obtain ⟨rfl, hw⟩ := h
      simpa [stopAnswered, hw] using .stopFailed hw
    · have h' : e ≠ k.board.epoch ∨ k.waiters = [] := by
        rwa [not_and_or, not_ne_iff, eq_comm] at h
      simpa [stopAnswered, h] using .stopFailedLate h'

/-- An answer to a question first clears the timer's note, then comes to the board. -/
theorem polled_eq (k : Keeper) (e : Nat) (sch : Bool) (res : Except RemoteError Snapshot) :
    k.polled e sch res =
      match res with
      | .error _ => (k.answeredPoll e sch, [])
      | .ok s =>
        match k.board.applyPoll e s with
        | none => (k.answeredPoll e sch, [])
        | some (b, report) =>
          if report.hasChanges then ((k.answeredPoll e sch).onBoard b).publish
          else ((k.answeredPoll e sch).onBoard b, []) := by
  rw [← answeredPoll_board k e sch]
  rfl

theorem step_polled (e : Nat) (sch : Bool) (res : Except RemoteError Snapshot) :
    k.Step now (.returned (.polled e sch res)) (k.polled e sch res).1 (k.polled e sch res).2 := by
  rw [polled_eq]
  cases res with
  | error err => exact .pollFailed
  | ok s =>
    by_cases he : e = k.board.epoch
    · subst he
      dsimp only
      rw [Board.applyPoll_current s rfl]
      -- a snapshot without news is taken in, but nothing is published
      cases hc : (k.board.roster.reconcile s).2.hasChanges with
      | true => simpa [hc] using .polled hc
      | false => simpa [hc] using .polledSame hc
    · dsimp only
      rw [Board.applyPoll_other s he]
      exact .pollLate he

theorem step_ingest (hg : k.board.Gated) (x : LogEvent) (at_ : Moment) :
    k.Step now (.log x at_) (k.ingest x at_).1 (k.ingest x at_).2 := by
  by_cases h : x.closing = false ∨ k.board.lifecycle = .idle
  · simpa [Keeper.ingest, Board.ingest_plain h] using .logged h
  · obtain ⟨hx, hl⟩ := not_or.1 h
    rw [Bool.not_eq_false] at hx
    cases ha : k.board.awaiting with
    | none => simpa [Keeper.ingest, Board.ingest_closing hg hx hl ha] using .closed hx hl ha
    | some e =>
      obtain rfl := hg.current ha
      simpa [Keeper.ingest, Board.ingest_held hx hl ha] using .heldBack hx hl ha

theorem step_tick : k.Step now .tick (k.tick now).1 (k.tick now).2 := by
  by_cases ht : k.timerPoll = some k.board.epoch
  · have h : k.Step now .tick _ _ := .tickBusy ht
    simpa only [Keeper.tick, askByTimer, if_pos ht] using h
  · simpa [Keeper.tick, askByTimer, ht] using .tick ht

theorem step_expire (hg : k.board.Gated) : k.Step now .deadline k.expire.1 k.expire.2 := by
  by_cases hl : k.board.lifecycle = .idle
  · simpa [expire, Board.forceIdle_idle hg hl] using .expiredIdle hl
  · simpa [expire, Board.forceIdle_active hl] using .expired hl

/-- **What comes of an event is one of the cases of `Step`.** -/
theorem step_handle (hg : k.board.Gated) (now : Nat) (e : Event) :
    k.Step now e (k.handle now e).1 (k.handle now e).2 := by
  cases e with
  | request c r => exact step_request c r
  | returned r =>
    cases r with
    | loaded c res => exact step_loaded c res
    | started c e res =>
      cases res with
      | ok u => exact step_startTaken hg c e
      | error err => exact step_startRefused hg c e err
    | stopped e res => exact step_stopAnswered e res
    | polled e sch res => exact step_polled e sch res
  | log x at_ => exact step_ingest hg x at_
  | tick => exact step_tick
  | deadline => exact step_expire hg

/-! ### What every event keeps -/

theorem Step.gated {e : Event} {k' : Keeper} {l : List Effect} (hs : k.Step now e k' l)
    (hg : k.board.Gated) : k'.board.Gated := by
  cases hs with
  | load | loadDenied | startDenied | startEmpty | stopIdle | stopAgain | view | shutdown
  | loadFailed | loadLate | takenLate | takenTwice | refusedLate | stopTaken | stopFailed
  | stopFailedLate | tick | tickBusy | expiredIdle => exact hg
  | pollFailed | pollLate => rwa [answeredPoll_board]
  | start => exact Board.gated_begun _
  | stop => exact Board.gated_stopping hg
  | loaded | polled | polledSame => exact hg.onRoster _
  | taken _ hh => exact Board.gated_of_awaiting_eq_none rfl hh
  | takenOver | closed | expired => exact Board.gated_ended _
  | refused => exact (Board.gated_ended _).onRoster _
  | logged => exact hg.logged _ _
  | heldBack _ _ ha => exact (hg.logged _ _).holding ha

theorem Step.epoch_le {e : Event} {k' : Keeper} {l : List Effect} (hs : k.Step now e k' l) :
    k.board.epoch ≤ k'.board.epoch := by
  cases hs with
  | start => exact Nat.le_succ _
  | pollFailed | pollLate =>
    exact Nat.le_of_eq (congrArg Board.epoch (answeredPoll_board k _ _)).symm
  | _ => exact Nat.le_refl _

theorem answeredPoll_settings (k : Keeper) (e : Nat) (sch : Bool) :
    (k.answeredPoll e sch).settings = k.settings := by
  unfold answeredPoll
  split <;> rfl

theorem run_append (k : Keeper) (a b : List (Nat × Event)) :
    k.run (a ++ b) = (k.run a).andThen fun k => k.run b := by
  induction a generalizing k with
  | nil => rfl
  | cons x rest ih => simp [run, ih, Turn.andThen]

theorem Step.settings {e : Event} {k' : Keeper} {l : List Effect} (hs : k.Step now e k' l) :
    k'.settings = k.settings := by
  cases hs with
  | pollFailed | pollLate | polled | polledSame => exact answeredPoll_settings ..
  | _ => rfl

/-- A monitor in order: its gate is, and the timer asks about no run to come. -/
structure Sound (k : Keeper) : Prop where
  /-- The gate is in order. -/
  gated : k.board.Gated
  /-- The timer's question is about this run or an earlier one. -/
  timer : ∀ {e}, k.timerPoll = some e → e ≤ k.board.epoch

theorem sound_initial (s : Settings) : (initial s).Sound :=
  ⟨Board.gated_initial s, fun h => by cases h⟩

theorem Step.sound {e : Event} {k' : Keeper} {l : List Effect} (hs : k.Step now e k' l)
    (h : k.Sound) : k'.Sound := by
  refine ⟨hs.gated h.gated, fun {n} hn => ?_⟩
  by_cases ht : k.timerPoll = some n
  · exact Nat.le_trans (h.timer ht) hs.epoch_le
  -- the note is new, and only the timer makes one: about the current run
  · cases hs with
    | tick =>
      cases hn
      exact Nat.le_refl _
    | pollFailed | pollLate | polled | polledSame => exact absurd (answeredPoll_timerPoll hn) ht
    | _ => exact absurd hn ht

theorem Sound.handle (h : k.Sound) (now : Nat) (e : Event) : (k.handle now e).1.Sound :=
  (step_handle h.gated now e).sound h

theorem Sound.run (hk : k.Sound) (h : List (Nat × Event)) : (k.run h).1.Sound := by
  induction h generalizing k with
  | nil => exact hk
  | cons x rest ih => exact ih (hk.handle x.1 x.2)

/-- What every step keeps holds after every history. -/
theorem Sound.run_induction {P : Keeper → Prop} (hk : k.Sound) (h : List (Nat × Event))
    (hstart : P k) (hstep : ∀ {k k' : Keeper} {now : Nat} {e : Event} {l : List Effect},
      k.Sound → k.Step now e k' l → P k → P k') : P (k.run h).1 := by
  induction h generalizing k with
  | nil => exact hstart
  | cons x rest ih =>
    exact ih (hk.handle x.1 x.2) (hstep hk (step_handle hk.gated x.1 x.2) hstart)

theorem sound_run (s : Settings) (h : List (Nat × Event)) : ((initial s).run h).1.Sound :=
  (sound_initial s).run h

end Keeper

end Overseer.Monitor
