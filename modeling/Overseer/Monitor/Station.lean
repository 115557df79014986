import Overseer.Monitor.Keeper

/-!
# The station

A monitor with its three queues, its timers and the calls that it has out. What waits in different
queues may be taken in any order: `fire` takes the next thing of one branch, and a `Branch` says
which. `settle` takes whatever is ready until nothing is, and `advance` moves the clock from timer
to timer.
-/

namespace Overseer.Monitor

open Overseer.Batch Overseer.Time

/-- The kinds of calls. -/
inductive CallKind where
  | load
  | start
  | stop
  | poll
  deriving DecidableEq, Repr

/-- The kind of a call. -/
def Call.kind : Call → CallKind
  | .load _ => .load
  | .start .. => .start
  | .stop _ => .stop
  | .poll .. => .poll

/-- What a monitor takes next. -/
inductive Branch where
  /-- A request, or the end of all callers. -/
  | request
  | returned
  | log
  | tick
  /-- The end of the time for a stop. -/
  | deadline
  deriving DecidableEq, Repr

/-- What others see of a monitor. -/
inductive Notice where
  | replied (caller : Nat) (r : Reply)
  /-- A call is made, the `n`-th of its kind. -/
  | called (n : Nat) (c : Call)
  | logged (e : LogEntry)
  | published
  /-- The log of the engine is no longer followed. -/
  | unsubscribed

/-- How many calls of each kind were made. -/
structure Issued where
  load : Nat
  start : Nat
  stop : Nat
  poll : Nat
  deriving DecidableEq, Repr

/-- The number of calls of a kind. -/
def Issued.of (i : Issued) : CallKind → Nat
  | .load => i.load
  | .start => i.start
  | .stop => i.stop
  | .poll => i.poll

/-- One call more. -/
def Issued.add (i : Issued) : CallKind → Issued
  | .load => { i with load := i.load + 1 }
  | .start => { i with start := i.start + 1 }
  | .stop => { i with stop := i.stop + 1 }
  | .poll => { i with poll := i.poll + 1 }

/-- The monitor's task: the actor with the queues of commands, completions and log events that its
event loop selects from, and the calls that it has spawned. -/
structure Station where
  keeper : Keeper
  /-- The time since the beginning, in milliseconds. -/
  now : Nat
  /-- The beginning. -/
  origin : Moment
  /-- The requests that wait, each with its caller. -/
  requests : List (Nat × Request)
  returns : List Return
  logs : List LogEvent
  /-- The calls that are out, each with its number. -/
  calls : List (Nat × Call)
  /-- How many calls were made. -/
  issued : Issued
  /-- The callers who wait for an answer. -/
  callers : List Nat
  /-- Whether more callers may come. -/
  held : Bool
  alive : Bool

namespace Station

/-- A monitor at the beginning. -/
def initial (s : Settings) (origin : Moment) : Station :=
  ⟨.initial s, 0, origin, [], [], [], [], ⟨0, 0, 0, 0⟩, [], true, true⟩

/-- The time of day. -/
def moment (s : Station) : Moment := s.origin.addMillis s.now

/-- Whether there is or may be a caller. -/
def attended (s : Station) : Bool := s.held || !s.callers.isEmpty

/-- Carries out what the monitor does. -/
def apply (s : Station) : Effect → Station × Notice
  | .reply caller r => ({ s with callers := s.callers.filter (· != caller) }, .replied caller r)
  | .call c =>
    let n := s.issued.of c.kind + 1
    ({ s with calls := s.calls ++ [(n, c)], issued := s.issued.add c.kind }, .called n c)
  | .entry e => (s, .logged e)
  | .published => (s, .published)

/-- Carries out all that the monitor does. -/
def applyAll (s : Station) : List Effect → Station × List Notice
  | [] => (s, [])
  | e :: rest =>
    let one := s.apply e
    let more := one.1.applyAll rest
    (more.1, one.2 :: more.2)

/-- Lets the monitor handle an event. -/
def handle (s : Station) (e : Event) : Station × List Notice :=
  let t := s.keeper.handle s.now e
  applyAll { s with keeper := t.1 } t.2

/-- The caller for whom a call was made that returned. -/
def callerOf : Return → Option Nat
  | .loaded caller _ | .started caller _ _ => some caller
  | _ => none

/-- Tells callers that the monitor is gone. -/
def hangUp (s : Station) (callers : List Nat) : Station × List Notice :=
  s.applyAll (callers.map fun c => .reply c (.error .closed))

/-- Ends the monitor: nobody who waits for it is answered any more. -/
def finish (s : Station) : Station × List Notice :=
  let waiting := s.keeper.waiters ++ (s.requests.map (·.1)).filter s.callers.contains ++
    s.returns.filterMap callerOf
  let gone := hangUp { s with alive := false, requests := [], returns := [], logs := [] } waiting
  (gone.1, gone.2 ++ [.unsubscribed])

/-- Takes what is next in a branch; `none` if nothing is. -/
def fire (s : Station) (b : Branch) : Option (Station × List Notice) :=
  if s.alive = false then none
  else
    match b with
    | .request =>
      match s.requests with
      | (_, .shutdown) :: rest => some (finish { s with requests := rest })
      | (caller, r) :: rest => some (handle { s with requests := rest } (.request caller r))
      | [] => if s.attended then none else some s.finish
    | .returned =>
      match s.returns with
      | r :: rest => some (handle { s with returns := rest } (.returned r))
      | [] => none
    | .log =>
      match s.logs with
      | e :: rest => some (handle { s with logs := rest } (.log e s.moment))
      | [] => none
    | .tick =>
      if s.keeper.polling ∧ s.keeper.nextTick ≤ s.now then some (s.handle .tick) else none
    | .deadline =>
      match s.keeper.deadline with
      | some t => if t ≤ s.now then some (s.handle .deadline) else none
      | none => none

/-- The branches in the order in which `settle` looks at them. -/
def branches (s : Station) : List Branch :=
  if s.requests.isEmpty then [.returned, .log, .request, .tick, .deadline]
  else [.request, .returned, .log, .tick, .deadline]

/-- How many things may be taken before nothing is ready. -/
def work (s : Station) : Nat := 2 * (s.requests.length + s.returns.length + s.logs.length) + 4

/-- Takes what is ready, at most `fuel` things. -/
def settleFor : Nat → Station → Station × List Notice
  | 0, s => (s, [])
  | fuel + 1, s =>
    match s.branches.findSome? s.fire with
    | none => (s, [])
    | some one =>
      let more := settleFor fuel one.1
      (more.1, one.2 ++ more.2)

/-- Takes what is ready until nothing is. -/
def settle (s : Station) : Station × List Notice := settleFor s.work s

/-! ### From outside -/

/-- A caller asks for something. -/
def ask (s : Station) (caller : Nat) (r : Request) : Station × List Notice :=
  if s.alive then
    ({ s with requests := s.requests ++ [(caller, r)], callers := s.callers ++ [caller] }, [])
  else (s, [.replied caller (.error .closed)])

/-- The monitor is told to end. -/
def shutdown (s : Station) : Station :=
  if s.alive then { s with requests := s.requests ++ [(0, .shutdown)] } else s

/-- No more callers will come. -/
def release (s : Station) : Station := { s with held := false }

/-- The engine has something to say; whether the monitor will take it. -/
def emit (s : Station) (e : LogEvent) : Station × Bool :=
  if s.alive then ({ s with logs := s.logs ++ [e] }, true) else (s, false)

/-- A call returns. -/
def giveBack (s : Station) (r : Return) : Station × List Notice :=
  if s.alive then ({ s with returns := s.returns ++ [r] }, [])
  else s.hangUp (callerOf r).toList

/-- The `n`-th call of a kind, if it is out. -/
def out? (s : Station) (kind : CallKind) (n : Nat) : Option Call :=
  (s.calls.find? fun c => c.1 == n && c.2.kind == kind).map (·.2)

/-- The `n`-th call of a kind is out no more. -/
def withdraw (s : Station) (kind : CallKind) (n : Nat) : Station :=
  { s with calls := s.calls.filter fun c => !(c.1 == n && c.2.kind == kind) }

/-! ### Time -/

/-- When the next timer is due. -/
def nextTimer (s : Station) : Option Nat :=
  if s.alive = false then none
  else
    let tick := if s.keeper.polling then some s.keeper.nextTick else none
    match tick, s.keeper.deadline with
    | some a, some b => some (min a b)
    | some a, none => some a
    | none, b => b

/-- Moves the clock to `target`, timer by timer, at most `fuel` of them. -/
def advanceFor (target : Nat) : Nat → Station → Station × List Notice
  | 0, s => ({ s with now := target }, [])
  | fuel + 1, s =>
    match s.nextTimer with
    | some t =>
      if t ≤ target then
        let one := settle { s with now := max s.now t }
        let more := advanceFor target fuel one.1
        (more.1, one.2 ++ more.2)
      else ({ s with now := target }, [])
    | none => ({ s with now := target }, [])

/-- Moves the clock by so many milliseconds. -/
def advance (s : Station) (ms : Nat) : Station × List Notice :=
  advanceFor (s.now + ms) (ms / s.keeper.settings.pollPeriod + 3) s

end Station

end Overseer.Monitor
