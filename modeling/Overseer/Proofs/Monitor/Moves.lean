import Overseer.Monitor.Station
import Overseer.Proofs.Monitor.Keeper

/-!
# Moves of a station

A `Move` is anything that callers, the engine, the clock or the monitor itself can do next, and a
`Course` is any sequence of moves from the beginning.  A station takes what waits for it from
whichever branch it likes, and calls return in any order, so a statement about every `Course` is one
about every interleaving.

* `Station.Moved` : all that a move can do, case by case.  A move makes the keeper handle one event
  (`Station.event?`), ends the monitor, or leaves the keeper alone.
* `Station.moved_of_move` : nothing else happens.
* `Course.sound` : the keeper is in order after every course, so each event that it handles is one
  of the cases of `Keeper.Step` (`Passage.step`).
* `Course.keeper_eq_run` : the keeper of a course is the one that the events lead to which it has
  handled, so what every step keeps holds in every course (`Course.keeper_induction`).
-/

namespace Overseer.Monitor

open Overseer.Batch Overseer.Time

/-- What a call is about: enough to tell which return belongs to it. -/
inductive Ticket where
  | load (caller : Nat)
  | start (caller epoch : Nat)
  | stop (epoch : Nat)
  | poll (epoch : Nat) (scheduled : Bool)
  deriving DecidableEq

/-- What a call is about. -/
def Call.ticket : Call → Ticket
  | .load c => .load c
  | .start c e _ => .start c e
  | .stop e => .stop e
  | .poll e sch => .poll e sch

/-- What a call was about that has returned. -/
def Return.ticket : Return → Ticket
  | .loaded c _ => .load c
  | .started c e _ => .start c e
  | .stopped e _ => .stop e
  | .polled e sch _ => .poll e sch

/-- The request that is handled. -/
def Event.request? : Event → Option (Nat × Request)
  | .request c r => some (c, r)
  | _ => none

/-- The return that is handled. -/
def Event.return? : Event → Option Return
  | .returned r => some r
  | _ => none

/-- The log event that is handled. -/
def Event.log? : Event → Option LogEvent
  | .log e _ => some e
  | _ => none

/-- The answer to a caller. -/
def Effect.reply? : Effect → Option (Nat × Reply)
  | .reply c r => some (c, r)
  | _ => none

/-- The call that is made. -/
def Effect.call? : Effect → Option Call
  | .call c => some c
  | _ => none

namespace Keeper

@[simp] theorem tell_replies (k : Keeper) (r : Reply) :
    (k.tell r).filterMap Effect.reply? = k.waiters.map fun w => (w, r) := by
  rw [tell, List.filterMap_map]
  exact congrFun List.filterMap_eq_map _

@[simp] theorem tell_calls (k : Keeper) (r : Reply) :
    (k.tell r).filterMap Effect.call? = [] := by
  rw [tell, List.filterMap_map]
  exact List.filterMap_eq_nil_iff.2 fun _ _ => rfl

end Keeper

/-- The answer to a caller. -/
def Notice.reply? : Notice → Option (Nat × Reply)
  | .replied c r => some (c, r)
  | _ => none

/-- The call that is made. -/
def Notice.call? : Notice → Option Call
  | .called _ c => some c
  | _ => none

/-- What can happen next. -/
inductive Move where
  | ask (caller : Nat) (r : Request)
  | shutdown
  | release
  | emit (e : LogEvent)
  /-- The `n`-th call of a kind returns. -/
  | giveBack (kind : CallKind) (n : Nat) (r : Return)
  | wait (ms : Nat)
  /-- The monitor takes what is next in a branch. -/
  | fire (b : Branch)

namespace Station

/-! ### What a station does -/

section Effects

variable (s : Station) (l : List Effect) (e : Event)

@[simp] theorem apply_keeper (x : Effect) : (s.apply x).1.keeper = s.keeper := by cases x <;> rfl
@[simp] theorem apply_requests (x : Effect) : (s.apply x).1.requests = s.requests := by
  cases x <;> rfl
@[simp] theorem apply_returns (x : Effect) : (s.apply x).1.returns = s.returns := by cases x <;> rfl
@[simp] theorem apply_logs (x : Effect) : (s.apply x).1.logs = s.logs := by cases x <;> rfl
@[simp] theorem apply_alive (x : Effect) : (s.apply x).1.alive = s.alive := by cases x <;> rfl

@[simp] theorem applyAll_keeper : (s.applyAll l).1.keeper = s.keeper := by
  induction l generalizing s with
  | nil => rfl
  | cons x rest ih => rw [applyAll, ih, apply_keeper]

@[simp] theorem applyAll_requests : (s.applyAll l).1.requests = s.requests := by
  induction l generalizing s with
  | nil => rfl
  | cons x rest ih => rw [applyAll, ih, apply_requests]

@[simp] theorem applyAll_returns : (s.applyAll l).1.returns = s.returns := by
  induction l generalizing s with
  | nil => rfl
  | cons x rest ih => rw [applyAll, ih, apply_returns]

@[simp] theorem applyAll_logs : (s.applyAll l).1.logs = s.logs := by
  induction l generalizing s with
  | nil => rfl
  | cons x rest ih => rw [applyAll, ih, apply_logs]

@[simp] theorem applyAll_alive : (s.applyAll l).1.alive = s.alive := by
  induction l generalizing s with
  | nil => rfl
  | cons x rest ih => rw [applyAll, ih, apply_alive]

theorem applyAll_calls :
    (s.applyAll l).1.calls.map (·.2) = s.calls.map (·.2) ++ l.filterMap Effect.call? := by
  induction l generalizing s with
  | nil => simp [applyAll]
  | cons x rest ih =>
    rw [applyAll, ih]
    cases x <;> simp [apply, Effect.call?, List.filterMap_cons]

theorem applyAll_replies :
    (s.applyAll l).2.filterMap Notice.reply? = l.filterMap Effect.reply? := by
  induction l generalizing s with
  | nil => rfl
  | cons x rest ih =>
    rw [applyAll, List.filterMap_cons, List.filterMap_cons, ih]
    cases x <;> rfl

theorem applyAll_called :
    (s.applyAll l).2.filterMap Notice.call? = l.filterMap Effect.call? := by
  induction l generalizing s with
  | nil => rfl
  | cons x rest ih =>
    rw [applyAll, List.filterMap_cons, List.filterMap_cons, ih]
    cases x <;> rfl

@[simp] theorem handle_keeper : (s.handle e).1.keeper = (s.keeper.handle s.now e).1 := by
  simp [handle]
@[simp] theorem handle_requests : (s.handle e).1.requests = s.requests := by simp [handle]
@[simp] theorem handle_returns : (s.handle e).1.returns = s.returns := by simp [handle]
@[simp] theorem handle_logs : (s.handle e).1.logs = s.logs := by simp [handle]
@[simp] theorem handle_alive : (s.handle e).1.alive = s.alive := by simp [handle]

theorem handle_calls : (s.handle e).1.calls.map (·.2) =
    s.calls.map (·.2) ++ (s.keeper.handle s.now e).2.filterMap Effect.call? := by
  rw [handle, applyAll_calls]

theorem handle_replies : (s.handle e).2.filterMap Notice.reply? =
    (s.keeper.handle s.now e).2.filterMap Effect.reply? := by
  rw [handle, applyAll_replies]

theorem handle_called : (s.handle e).2.filterMap Notice.call? =
    (s.keeper.handle s.now e).2.filterMap Effect.call? := by
  rw [handle, applyAll_called]

theorem hangUp_replies (cs : List Nat) :
    (s.hangUp cs).2.filterMap Notice.reply? = cs.map fun c => (c, .error .closed) := by
  rw [hangUp, applyAll_replies, List.filterMap_map]
  exact congrFun List.filterMap_eq_map _

theorem hangUp_called (cs : List Nat) : (s.hangUp cs).2.filterMap Notice.call? = [] := by
  rw [hangUp, applyAll_called, List.filterMap_map]
  exact List.filterMap_eq_nil_iff.2 fun _ _ => rfl

@[simp] theorem hangUp_keeper (cs : List Nat) : (s.hangUp cs).1.keeper = s.keeper := by
  rw [hangUp, applyAll_keeper]
@[simp] theorem hangUp_alive (cs : List Nat) : (s.hangUp cs).1.alive = s.alive := by
  rw [hangUp, applyAll_alive]

/-- Those who wait for the monitor when it ends. -/
def waiting : List Nat :=
  s.keeper.waiters ++ (s.requests.map (·.1)).filter s.callers.contains ++
    s.returns.filterMap callerOf

@[simp] theorem finish_keeper : s.finish.1.keeper = s.keeper := by simp [finish]
@[simp] theorem finish_alive : s.finish.1.alive = false := by simp [finish]

theorem finish_replies :
    s.finish.2.filterMap Notice.reply? = s.waiting.map fun c => (c, .error .closed) := by
  rw [finish, List.filterMap_append, hangUp_replies]
  exact List.append_nil _

theorem finish_called : s.finish.2.filterMap Notice.call? = [] := by
  rw [finish, List.filterMap_append, hangUp_called]
  rfl

end Effects

/-! ### What a branch holds -/

/-- The event that a branch has next for the keeper. -/
def event? (s : Station) (b : Branch) : Option Event :=
  if s.alive = false then none
  else
    match b with
    | .request =>
      match s.requests with
      | (_, .shutdown) :: _ => none
      | (c, r) :: _ => some (.request c r)
      | [] => none
    | .returned => s.returns.head?.map .returned
    | .log => s.logs.head?.map (.log · s.moment)
    | .tick => if s.keeper.polling ∧ s.keeper.nextTick ≤ s.now then some .tick else none
    | .deadline =>
      match s.keeper.deadline with
      | some t => if t ≤ s.now then some .deadline else none
      | none => none

/-- The station once the next thing of a branch is taken. -/
def taken (s : Station) : Branch → Station
  | .request => { s with requests := s.requests.tail }
  | .returned => { s with returns := s.returns.tail }
  | .log => { s with logs := s.logs.tail }
  | .tick | .deadline => s

@[simp] theorem taken_keeper (s : Station) (b : Branch) : (s.taken b).keeper = s.keeper := by
  cases b <;> rfl
@[simp] theorem taken_now (s : Station) (b : Branch) : (s.taken b).now = s.now := by cases b <;> rfl
@[simp] theorem taken_calls (s : Station) (b : Branch) : (s.taken b).calls = s.calls := by
  cases b <;> rfl
@[simp] theorem taken_alive (s : Station) (b : Branch) : (s.taken b).alive = s.alive := by
  cases b <;> rfl

variable {s s' : Station} {b : Branch} {e : Event} {m : Move} {ns : List Notice}

theorem alive_of_event? (h : s.event? b = some e) : s.alive = true := by
  cases ha : s.alive with
  | true => rfl
  | false => simp [event?, ha] at h

/-- All that a branch can have next for the keeper. -/
inductive Next (s : Station) : Branch → Event → Prop where
  | request {c r rest} (hr : s.requests = (c, r) :: rest) (hns : r ≠ .shutdown) :
      Next s .request (.request c r)
  | returned {r rest} (hr : s.returns = r :: rest) : Next s .returned (.returned r)
  | log {x rest} (hl : s.logs = x :: rest) : Next s .log (.log x s.moment)
  | tick (ht : s.keeper.polling = true ∧ s.keeper.nextTick ≤ s.now) : Next s .tick .tick
  | deadline {t} (hd : s.keeper.deadline = some t) (ht : t ≤ s.now) : Next s .deadline .deadline

theorem next_of_event? (h : s.event? b = some e) : s.Next b e := by
  have ha := alive_of_event? h
  cases b with
  | request =>
    simp only [event?, ha] at h
    rcases hr : s.requests with _ | ⟨⟨c, r⟩, rest⟩
    · simp [hr] at h
    · cases r with
      | shutdown => simp [hr] at h
      | _ =>
        obtain rfl : _ = e := by simpa [hr] using h
        exact .request hr nofun
  | returned =>
    rcases hr : s.returns with _ | ⟨r, rest⟩
    · simp [event?, hr] at h
    · obtain rfl : _ = e := by simpa [event?, ha, hr] using h
      exact .returned hr
  | log =>
    rcases hl : s.logs with _ | ⟨x, rest⟩
    · simp [event?, hl] at h
    · obtain rfl : _ = e := by simpa [event?, ha, hl] using h
      exact .log hl
  | tick =>
    obtain ⟨ht, rfl⟩ := by simpa [event?, ha] using h
    exact .tick ht
  | deadline =>
    rcases hd : s.keeper.deadline with _ | t
    · simp [event?, hd] at h
    · obtain ⟨ht, rfl⟩ := by simpa [event?, ha, hd] using h
      exact .deadline hd ht

theorem requests_of_event? (h : s.event? b = some e) :
    s.requests = e.request?.toList ++ (s.taken b).requests := by
  cases next_of_event? h with
  | request hr => simp [Event.request?, taken, hr]
  | _ => rfl

theorem returns_of_event? (h : s.event? b = some e) :
    s.returns = e.return?.toList ++ (s.taken b).returns := by
  cases next_of_event? h with
  | returned hr => simp [Event.return?, taken, hr]
  | _ => rfl

theorem logs_of_event? (h : s.event? b = some e) :
    s.logs = e.log?.toList ++ (s.taken b).logs := by
  cases next_of_event? h with
  | log hl => simp [Event.log?, taken, hl]
  | _ => rfl

theorem fire_of_event? (h : s.event? b = some e) : s.fire b = some ((s.taken b).handle e) := by
  have ha := alive_of_event? h
  cases next_of_event? h with
  | @request c r rest hr hns =>
    cases r with
    | shutdown => exact absurd rfl hns
    | _ => simp [fire, ha, hr, taken]
  | returned hr => simp [fire, ha, hr, taken]
  | log hl => simp [fire, ha, hl, taken, moment]
  | tick ht => simp [fire, ha, ht, taken]
  | deadline hd ht => simp [fire, ha, hd, ht, taken]

theorem fire_of_event?_eq_none {out : Station × List Notice} (h : s.event? b = none)
    (hf : s.fire b = some out) :
    s.alive = true ∧ b = .request ∧ out = (s.taken .request).finish := by
  have ha : s.alive = true := by
    cases ha : s.alive with
    | true => rfl
    | false => simp [fire, ha] at hf
  refine ⟨ha, ?_⟩
  cases b with
  | request =>
    simp only [event?, ha] at h
    rcases hr : s.requests with _ | ⟨⟨c, r⟩, rest⟩
    · -- the queue is empty and no caller is left, so the monitor ends by itself
      obtain ⟨-, rfl⟩ := by simpa [fire, ha, hr] using hf
      refine ⟨rfl, congrArg finish ?_⟩
      rw [taken, hr, List.tail_nil, ← hr]
    · cases r with
      | shutdown =>
        obtain rfl : _ = out := by simpa [fire, ha, hr] using hf
        simp [taken, hr, ha]
      | _ => simp [hr] at h
  | returned =>
    rcases hr : s.returns with _ | ⟨r, rest⟩
    · simp [fire, hr] at hf
    · simp [event?, ha, hr] at h
  | log =>
    rcases hl : s.logs with _ | ⟨x, rest⟩
    · simp [fire, hl] at hf
    · simp [event?, ha, hl] at h
  | tick =>
    by_cases ht : s.keeper.polling = true ∧ s.keeper.nextTick ≤ s.now
    · simp [event?, ha, ht] at h
    · simp [fire, ha, ht] at hf
  | deadline =>
    rcases hd : s.keeper.deadline with _ | t
    · simp [fire, hd] at hf
    · by_cases ht : t ≤ s.now
      · simp [event?, ha, hd, ht] at h
      · simp [fire, ha, hd, ht] at hf

/-! ### Moves -/

/-- Makes a move, if it can be made.  A return belongs to a call that is out. -/
def move (s : Station) : Move → Option (Station × List Notice)
  | .ask c r => some (s.ask c r)
  | .shutdown => some (s.shutdown, [])
  | .release => some (s.release, [])
  | .emit e => some ((s.emit e).1, [])
  | .giveBack kind n r =>
    match s.out? kind n with
    | some c => if r.ticket = c.ticket then some ((s.withdraw kind n).giveBack r) else none
    | none => none
  | .wait ms => some ({ s with now := s.now + ms }, [])
  | .fire b => s.fire b

/-- All that a move can do. -/
inductive Moved (s : Station) : Move → Station → List Notice → Prop where
  /-- A request is put in the queue. -/
  | asked {c r} (ha : s.alive = true) :
      Moved s (.ask c r)
        { s with requests := s.requests ++ [(c, r)], callers := s.callers ++ [c] } []
  /-- A request comes too late. -/
  | askedLate {c r} (ha : s.alive = false) :
      Moved s (.ask c r) s [.replied c (.error .closed)]
  /-- The end of the monitor is put in the queue. -/
  | told (ha : s.alive = true) :
      Moved s .shutdown { s with requests := s.requests ++ [(0, .shutdown)] } []
  /-- The monitor has ended already. -/
  | toldLate (ha : s.alive = false) : Moved s .shutdown s []
  | released : Moved s .release s.release []
  /-- A log event is put in the queue. -/
  | emitted {e : LogEvent} (ha : s.alive = true) :
      Moved s (.emit e) { s with logs := s.logs ++ [e] } []
  /-- Nobody takes log events any more. -/
  | emittedLate {e : LogEvent} (ha : s.alive = false) : Moved s (.emit e) s []
  /-- A return is put in the queue. -/
  | returned {kind n r c} (ha : s.alive = true) (ho : s.out? kind n = some c)
      (ht : r.ticket = c.ticket) :
      Moved s (.giveBack kind n r) { s.withdraw kind n with returns := s.returns ++ [r] } []
  /-- Nobody takes returns any more. -/
  | returnedLate {kind n r c} (ha : s.alive = false) (ho : s.out? kind n = some c)
      (ht : r.ticket = c.ticket) :
      Moved s (.giveBack kind n r) ((s.withdraw kind n).hangUp (callerOf r).toList).1
        ((s.withdraw kind n).hangUp (callerOf r).toList).2
  | waited {ms} : Moved s (.wait ms) { s with now := s.now + ms } []
  | handled {b : Branch} {e : Event} (he : s.event? b = some e) :
      Moved s (.fire b) ((s.taken b).handle e).1 ((s.taken b).handle e).2
  | finished (ha : s.alive = true) (he : s.event? .request = none) :
      Moved s (.fire .request) (s.taken .request).finish.1 (s.taken .request).finish.2

/-- **A move does nothing else.** -/
theorem moved_of_move (h : s.move m = some (s', ns)) : s.Moved m s' ns := by
  cases m with
  | ask c r =>
    cases ha : s.alive with
    | true =>
      obtain ⟨rfl, rfl⟩ := by simpa [move, ask, ha] using h
      rw [← ha]
      exact .asked ha
    | false =>
      obtain ⟨rfl, rfl⟩ := by simpa [move, ask, ha] using h
      exact .askedLate ha
  | shutdown =>
    cases ha : s.alive with
    | true =>
      obtain ⟨rfl, rfl⟩ := by simpa [move, shutdown, ha] using h
      rw [← ha]
      exact .told ha
    | false =>
      obtain ⟨rfl, rfl⟩ := by simpa [move, shutdown, ha] using h
      exact .toldLate ha
  | release =>
    obtain ⟨rfl, rfl⟩ := by simpa [move] using h
    exact .released
  | emit e =>
    cases ha : s.alive with
    | true =>
      obtain ⟨rfl, rfl⟩ := by simpa [move, emit, ha] using h
      rw [← ha]
      exact .emitted ha
    | false =>
      obtain ⟨rfl, rfl⟩ := by simpa [move, emit, ha] using h
      exact .emittedLate ha
  | giveBack kind n r =>
    rcases ho : s.out? kind n with _ | c
    · simp [move, ho] at h
    · by_cases ht : r.ticket = c.ticket
      · have hb : (s.withdraw kind n).giveBack r = (s', ns) := by simpa [move, ho, ht] using h
        -- the return waits for a monitor at work, and its caller is hung up on otherwise
        cases ha : s.alive with
        | true =>
          rw [giveBack, if_pos (show (s.withdraw kind n).alive = true from ha)] at hb
          obtain ⟨rfl, rfl⟩ := Prod.mk.inj hb
          exact .returned ha ho ht
        | false =>
          have gone : ¬(s.withdraw kind n).alive = true := by simp [withdraw, ha]
          rw [giveBack, if_neg gone] at hb
          obtain ⟨rfl, rfl⟩ := Prod.ext_iff.1 hb
          exact .returnedLate ha ho ht
      · simp [move, ho, ht] at h
  | wait ms =>
    obtain ⟨rfl, rfl⟩ := by simpa [move] using h
    exact .waited
  | fire b =>
    have hf : s.fire b = some (s', ns) := h
    cases he : s.event? b with
    | some e =>
      rw [fire_of_event? he] at hf
      obtain ⟨rfl, rfl⟩ := by simpa [Prod.ext_iff] using hf
      exact .handled he
    | none =>
      obtain ⟨ha, rfl, hout⟩ := fire_of_event?_eq_none he hf
      obtain ⟨rfl, rfl⟩ := by simpa [Prod.ext_iff] using hout
      exact .finished ha he

theorem Moved.alive_of_alive (hm : s.Moved m s' ns) (ha : s'.alive = true) : s.alive = true := by
  cases hm with
  | handled he => exact alive_of_event? he
  | finished ha' | asked ha' | told ha' | emitted ha' | returned ha' => exact ha'
  | returnedLate => simpa [hangUp, withdraw] using ha
  | _ => exact ha

end Station

/-! ### Courses -/

/-- A move that was made, with the station before and after it and what others saw of it. -/
structure Passage where
  before : Station
  move : Move
  after : Station
  notices : List Notice

namespace Passage

/-- The event that the keeper handles in a passage. -/
def event? (p : Passage) : Option Event :=
  match p.move with
  | .fire b => p.before.event? b
  | _ => none

/-- The callers who are answered, with their answers. -/
def replies (p : Passage) : List (Nat × Reply) := p.notices.filterMap Notice.reply?

/-- The calls that are made. -/
def calls (p : Passage) : List Call := p.notices.filterMap Notice.call?

end Passage

/-- The caller in whose name a move is made; the end of the monitor is told in the name of nobody,
which is zero. -/
def Move.asker? : Move → Option Nat
  | .ask c _ => some c
  | .shutdown => some 0
  | _ => none

/-- The request is for the end of the monitor. -/
def Request.ends : Request → Bool
  | .shutdown => true
  | _ => false

/-- A request is made under a name of its own, which is not that of nobody, and not for the end of
the monitor: that one is told. -/
def Fresh (ps : List Passage) : Move → Prop
  | .ask c r => c ≠ 0 ∧ r.ends = false ∧ some c ∉ ps.map (·.move.asker?)
  | _ => True

instance (ps : List Passage) : (m : Move) → Decidable (Fresh ps m)
  | .ask c r =>
    inferInstanceAs (Decidable (c ≠ 0 ∧ r.ends = false ∧ some c ∉ ps.map (·.move.asker?)))
  | .shutdown | .release | .emit _ | .giveBack .. | .wait _ | .fire _ => .isTrue trivial

/-- A history of the monitor's task: the passages from the beginning to a station, each of them one
turn of its event loop or something that a caller, a spawned call, the engine or the clock did. -/
inductive Course (set : Settings) (origin : Moment) : List Passage → Station → Prop where
  | start : Course set origin [] (.initial set origin)
  | next {ps s m s' ns} (h : Course set origin ps s) (hf : Fresh ps m)
      (hm : s.move m = some (s', ns)) : Course set origin (ps ++ [⟨s, m, s', ns⟩]) s'

namespace Passage

variable {p : Passage}

/-- **A passage with an event** is a step of the keeper, and others see what it does. -/
theorem step (hm : p.before.Moved p.move p.after p.notices) (hk : p.before.keeper.Sound)
    {e : Event} (he : p.event? = some e) :
    ∃ l, p.before.keeper.Step p.before.now e p.after.keeper l ∧
      p.replies = l.filterMap Effect.reply? ∧ p.calls = l.filterMap Effect.call? := by
  obtain ⟨s, m, s', ns⟩ := p
  change s.Moved m s' ns at hm
  cases hm with
  | @handled b e' he' =>
    obtain rfl := Option.some.inj (he'.symm.trans he)
    refine ⟨_, ?_, Station.handle_replies .., Station.handle_called ..⟩
    simpa using Keeper.step_handle hk.gated s.now e'
  | finished _ he' => exact absurd (he'.symm.trans he) (by simp)
  | _ => cases he

theorem handled (hm : p.before.Moved p.move p.after p.notices) {e : Event}
    (he : p.event? = some e) :
    p.after.keeper = (p.before.keeper.handle p.before.now e).1 := by
  obtain ⟨s, m, s', ns⟩ := p
  change s.Moved m s' ns at hm
  cases hm with
  | handled he' =>
    obtain rfl := Option.some.inj (he'.symm.trans he)
    simp
  | finished _ he' => exact absurd (he'.symm.trans he) (by simp)
  | _ => cases he

/-- A passage changes nothing of the keeper, and nothing is asked for in it. -/
def Idles (p : Passage) : Prop := p.after.keeper = p.before.keeper ∧ p.calls = []

theorem quiet (hm : p.before.Moved p.move p.after p.notices) (he : p.event? = none) :
    p.Idles := by
  obtain ⟨s, m, s', ns⟩ := p
  change s.Moved m s' ns at hm
  cases hm with
  | handled he' => exact absurd (he'.symm.trans he) (by simp)
  | finished => exact ⟨by simp, Station.finish_called _⟩
  | returnedLate => exact ⟨by simp [Station.withdraw], Station.hangUp_called ..⟩
  | _ => exact ⟨rfl, rfl⟩

theorem alive_of_event (hm : p.before.Moved p.move p.after p.notices) {e : Event}
    (he : p.event? = some e) : p.before.alive = true ∧ p.after.alive = true := by
  obtain ⟨s, m, s', ns⟩ := p
  change s.Moved m s' ns at hm
  cases hm with
  | handled he' =>
    have ha := Station.alive_of_event? he'
    exact ⟨ha, by simpa using ha⟩
  | finished _ he' => exact absurd (he'.symm.trans he) (by simp)
  | _ => cases he

end Passage

/-- The events that the keeper has handled, each with its time. -/
def handled (ps : List Passage) : List (Nat × Event) :=
  ps.filterMap fun p => p.event?.map fun e => (p.before.now, e)

namespace Course

variable {set : Settings} {origin : Moment} {ps before after : List Passage} {s : Station}
  {p : Passage}

/-- What happens before a passage is a course. -/
theorem upTo (h : Course set origin (before ++ p :: after) s) :
    Course set origin before p.before ∧ Fresh before p.move ∧
      p.before.move p.move = some (p.after, p.notices) := by
  generalize hps : before ++ p :: after = ps at h
  induction h generalizing after with
  | start => simp at hps
  | @next ps _ _ _ _ h hf hm ih =>
    -- the last passage is `p` itself, or one behind it
    rcases List.eq_nil_or_concat after with rfl | ⟨rest, q, rfl⟩
    · obtain ⟨rfl, hp⟩ := List.append_inj' hps rfl
      obtain rfl := List.singleton_inj.1 hp
      exact ⟨h, hf, hm⟩
    · rw [List.concat_eq_append, ← List.cons_append, ← List.append_assoc] at hps
      exact ih (List.append_inj' hps rfl).1

theorem moved (h : Course set origin (before ++ p :: after) s) :
    p.before.Moved p.move p.after p.notices :=
  Station.moved_of_move h.upTo.2.2

theorem sound (h : Course set origin ps s) : s.keeper.Sound ∧ s.keeper.settings = set := by
  induction h with
  | start => exact ⟨Keeper.sound_initial set, rfl⟩
  | @next ps s m s' ns _ _ hm ih =>
    have hmv : (Passage.mk s m s' ns).before.Moved m s' ns := Station.moved_of_move hm
    cases he : (Passage.mk s m s' ns).event? with
    | none =>
      have hq := (Passage.quiet hmv he).1
      dsimp only at hq
      rwa [hq]
    | some e =>
      obtain ⟨l, hs, -⟩ := Passage.step hmv ih.1 he
      exact ⟨hs.sound ih.1, hs.settings.trans ih.2⟩

/-- A passage with an event is a step of the keeper, and others see what it does. -/
theorem step_of_mem (h : Course set origin ps s) (hp : p ∈ ps) {e : Event}
    (he : p.event? = some e) :
    ∃ l, p.before.keeper.Step p.before.now e p.after.keeper l ∧
      p.replies = l.filterMap Effect.reply? ∧ p.calls = l.filterMap Effect.call? := by
  obtain ⟨front, back, rfl⟩ := List.append_of_mem hp
  exact Passage.step h.moved h.upTo.1.sound.1 he

theorem idles_of_mem (h : Course set origin ps s) (hp : p ∈ ps) (he : p.event? = none) :
    p.Idles := by
  obtain ⟨front, back, rfl⟩ := List.append_of_mem hp
  exact Passage.quiet h.moved he

/-- **A keeper has gone through the events that it has handled**, and through nothing else. -/
theorem keeper_eq_run (h : Course set origin ps s) :
    s.keeper = ((Keeper.initial set).run (handled ps)).1 := by
  induction h with
  | start => rfl
  | @next ps s m s' ns _ _ hm ih =>
    have hmv : (Passage.mk s m s' ns).before.Moved m s' ns := Station.moved_of_move hm
    rw [handled, List.filterMap_append]
    cases he : (Passage.mk s m s' ns).event? with
    | none =>
      rw [List.filterMap_cons_none (by simp [he]), List.filterMap_nil, List.append_nil]
      exact (Passage.quiet hmv he).1.trans ih
    | some e =>
      rw [List.filterMap_cons_some (b := (s.now, e)) (by simp [he]), List.filterMap_nil,
        Keeper.run_append, Turn.andThen]
      refine (Passage.handled hmv he).trans ?_
      rw [show s.keeper = _ from ih]
      rfl

/-- What a keeper has gone through in a course is a history of events. -/
theorem exists_history (h : Course set origin ps s) :
    ∃ l, s.keeper = ((Keeper.initial set).run l).1 := ⟨_, h.keeper_eq_run⟩

/-- What every step of the keeper keeps holds in every course. -/
theorem keeper_induction {P : Keeper → Prop} (h : Course set origin ps s)
    (hstart : P (.initial set))
    (hstep : ∀ {k k' : Keeper} {now : Nat} {e : Event} {l : List Effect},
      k.Sound → k.Step now e k' l → P k → P k') : P s.keeper := by
  obtain ⟨l, hl⟩ := h.exists_history
  rw [hl]
  exact (Keeper.sound_initial set).run_induction l hstart hstep

/-- Makes moves one after the other, from the beginning: none if one of them cannot be made. -/
def play (set : Settings) (origin : Moment) (ms : List Move) : Option (List Passage × Station) :=
  ms.foldlM (fun at_ m =>
    if Fresh at_.1 m then
      (at_.2.move m).map fun out => (at_.1 ++ [⟨at_.2, m, out.1, out.2⟩], out.1)
    else none) ([], .initial set origin)

/-- Moves that can be made one after the other make a course. -/
theorem of_play {ms : List Move} (h : play set origin ms = some (ps, s)) :
    Course set origin ps s := by
  -- the fold goes on from any course, so the induction is over what is left to play
  suffices hall : ∀ (ms : List Move) (qs : List Passage) (t : Station), Course set origin qs t →
      ms.foldlM (fun at_ m =>
        if Fresh at_.1 m then
          (at_.2.move m).map fun out => (at_.1 ++ [⟨at_.2, m, out.1, out.2⟩], out.1)
        else none) (qs, t) = some (ps, s) → Course set origin ps s from
    hall ms [] _ .start h
  intro ms
  induction ms with
  | nil =>
    intro qs t hc hq
    obtain ⟨rfl, rfl⟩ := by simpa using hq
    exact hc
  | cons m rest ih =>
    intro qs t hc hq
    rw [List.foldlM_cons] at hq
    by_cases hf : Fresh qs m
    · cases hm : t.move m with
      | none => simp [hf, hm] at hq
      | some out =>
        refine ih _ _ (.next hc hf hm) ?_
        simpa [hf, hm] using hq
    · simp [hf] at hq

end Course

end Overseer.Monitor
