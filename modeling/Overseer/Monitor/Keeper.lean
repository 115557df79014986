import Overseer.Batch.Params
import Overseer.Monitor.Board

/-!
# The keeper of the board

What a monitor does about each thing that happens to it: a request of a caller, the return of a call
that it made, a log event, a tick of the poll timer, the end of the time for a stop. Nothing else
changes the board, and `Keeper.handle` is the only way in, so a monitor is a fold of `handle` over
what happens.
-/

namespace Overseer.Monitor

open Overseer.Batch Overseer.Time

/-- How a stop ended. -/
inductive StopOutcome where
  | alreadyIdle
  /-- The engine said that the run is over. -/
  | confirmed
  /-- The engine said nothing in time. -/
  | timedOut
  | runAborted
  deriving DecidableEq, Repr

/-- The name of an outcome. -/
def StopOutcome.text : StopOutcome → String
  | .alreadyIdle => "already_idle"
  | .confirmed => "confirmed"
  | .timedOut => "timed_out"
  | .runAborted => "run_aborted"

/-- What callers ask for. -/
inductive Request where
  /-- To read the accounts anew. -/
  | load
  | start (params : Params)
  | stop
  | view
  | shutdown

/-- What callers are told. -/
inductive Reply where
  /-- The accounts after a load. -/
  | accounts (l : List Account)
  /-- The number of the run that started. -/
  | epoch (n : Nat)
  | stopped (how : StopOutcome)
  | view (v : View)
  | error (e : MonitorError)

/-- What a monitor asks of others. -/
inductive Call where
  /-- The accounts from their source, for a caller. -/
  | load (caller : Nat)
  /-- The start of a run from the engine, for a caller. -/
  | start (caller epoch : Nat) (params : Params)
  /-- The stop of a run from the engine. -/
  | stop (epoch : Nat)
  /-- The status from the engine; `scheduled` if the timer asks. -/
  | poll (epoch : Nat) (scheduled : Bool)

/-- A call that returned with its result. -/
inductive Return where
  | loaded (caller : Nat) (result : Except SourceError (List Account))
  | started (caller epoch : Nat) (result : Except RemoteError Unit)
  | stopped (epoch : Nat) (result : Except RemoteError Unit)
  | polled (epoch : Nat) (scheduled : Bool) (result : Except RemoteError Snapshot)

/-- What happens to a monitor. -/
inductive Event where
  | request (caller : Nat) (r : Request)
  | returned (r : Return)
  | log (e : LogEvent) (at_ : Moment)
  | tick
  /-- The time for a stop is over. -/
  | deadline

/-- What a monitor does. -/
inductive Effect where
  | reply (caller : Nat) (r : Reply)
  | call (c : Call)
  | entry (e : LogEntry)
  | published

/-- The monitor's actor: all that its handlers of commands, completions, log events and timers read
and write. The queues in front of it are part of a `Station`. -/
structure Keeper where
  settings : Settings
  board : Board
  /-- The view that was published last. -/
  published : View
  /-- The run for which a question of the timer is out. -/
  timerPoll : Option Nat
  /-- The callers who wait for the end of the run. -/
  waiters : List Nat
  /-- When the time for a stop is over, in milliseconds. -/
  deadline : Option Nat
  /-- Why the engine did not take the request to stop. -/
  stopError : Option String
  /-- When the poll timer ticks next, in milliseconds. -/
  nextTick : Nat

/-- A state with what was done to reach it. -/
abbrev Turn := Keeper × List Effect

/-- Goes on with what `f` does. -/
def Turn.andThen (t : Turn) (f : Keeper → Turn) : Turn := ((f t.1).1, t.2 ++ (f t.1).2)

namespace Keeper

/-- A monitor before anything happens. -/
def initial (s : Settings) : Keeper :=
  ⟨s, .initial s, (Board.initial s).view, none, [], none, none, 0⟩

/-- The timer runs: a run is under way and the engine has taken its start. -/
def polling (k : Keeper) : Bool := !k.board.lifecycle.isIdle && k.board.awaiting.isNone

/-- Publishes what is known. -/
def publish (k : Keeper) : Turn := ({ k with published := k.board.view }, [.published])

/-- Asks the engine for the status. -/
def ask (k : Keeper) : Turn := (k, [.call (.poll k.board.epoch false)])

/-- Asks the engine for the status because the timer ticked, unless the answer to its last question
in this run is still out. -/
def askByTimer (k : Keeper) : Turn :=
  if k.timerPoll = some k.board.epoch then (k, [])
  else ({ k with timerPoll := some k.board.epoch }, [.call (.poll k.board.epoch true)])

/-- Tells all who wait for the end of the run how it came. -/
def release (r : Reply) (k : Keeper) : Turn :=
  ({ k with waiters := [], deadline := none, stopError := none },
    k.waiters.map fun w => .reply w r)

/-- A closing message ended the run: the engine is asked once more. -/
def finished (k : Keeper) : Turn := k.ask.andThen (release (.stopped .confirmed))

/-! ### Requests -/

/-- Reads the accounts anew. -/
def load (k : Keeper) (caller : Nat) : Turn :=
  if k.board.lifecycle.isIdle then (k, [.call (.load caller)])
  else (k, [.reply caller (.error .alreadyRunning)])

/-- Starts a run. -/
def start (k : Keeper) (caller : Nat) (params : Params) : Turn :=
  match k.board.beginRun with
  | .error e => (k, [.reply caller (.error e)])
  | .ok board =>
    (publish { k with board := board }).andThen fun k =>
      (k, [.call (.start caller k.board.epoch params)])

/-- Stops the run. -/
def stop (k : Keeper) (now caller : Nat) : Turn :=
  match k.board.beginStop with
  | (_, .alreadyIdle) => (k, [.reply caller (.stopped .alreadyIdle)])
  | (_, .alreadyStopping) => ({ k with waiters := k.waiters ++ [caller] }, [])
  | (board, .requested) =>
    (publish { k with
      board := board
      waiters := k.waiters ++ [caller]
      deadline := some (now + k.settings.stopTimeout)
      stopError := none }).andThen fun k => (k, [.call (.stop k.board.epoch)])

/-! ### Returns of calls -/

/-- The accounts are there. -/
def loaded (k : Keeper) (caller : Nat) (result : Except SourceError (List Account)) : Turn :=
  match result with
  | .error e => (k, [.reply caller (.error (.ofSource e))])
  | .ok accounts =>
    match k.board.load accounts with
    | .error e => (k, [.reply caller (.error e)])
    | .ok (board, _) =>
      (publish { k with board := board }).andThen fun k =>
        (k, [.reply caller (.accounts k.board.roster.accounts)])

/-- The engine took the start of a run. -/
def startTaken (k : Keeper) (now caller epoch : Nat) : Turn :=
  let (board, ended) := k.board.acknowledge epoch
  let k := { k with board := board }
  Turn.andThen (k, [.reply caller (.epoch epoch)]) fun k =>
    if ended then k.finished.andThen publish
    else if k.board.epoch = epoch ∧ k.board.lifecycle.isIdle = false then
      ask { k with nextTick := now + k.settings.pollPeriod }
    else (k, [])

/-- The engine refused the start of a run. -/
def startRefused (k : Keeper) (caller epoch : Nat) (e : RemoteError) : Turn :=
  let back : Turn :=
    match k.board.rollback epoch e.message with
    | (board, true) =>
      (publish { k with board := board }).andThen (release (.stopped .runAborted))
    | (board, false) => ({ k with board := board }, [])
  back.andThen fun k => (k, [.reply caller (.error (.ofRemote e))])

/-- The engine answered a request to stop. -/
def stopAnswered (k : Keeper) (epoch : Nat) (result : Except RemoteError Unit) : Turn :=
  match result with
  | .ok _ => (k, [])
  | .error e =>
    if k.board.epoch = epoch ∧ k.waiters ≠ [] then ({ k with stopError := some e.message }, [])
    else (k, [])

/-- The engine answered a question for the status. -/
def polled (k : Keeper) (epoch : Nat) (scheduled : Bool) (result : Except RemoteError Snapshot) :
    Turn :=
  let k :=
    if scheduled ∧ k.timerPoll = some epoch then { k with timerPoll := none } else k
  match result with
  | .error _ => (k, [])
  | .ok snapshot =>
    match k.board.applyPoll epoch snapshot with
    | none => (k, [])
    | some (board, report) =>
      let k := { k with board := board }
      if report.hasChanges then k.publish else (k, [])

/-! ### Log events and timers -/

/-- Takes in a log event. -/
def ingest (k : Keeper) (e : LogEvent) (at_ : Moment) : Turn :=
  let (board, ingested) := k.board.ingest e at_
  let k := { k with board := board }
  Turn.andThen (k, [.entry ingested.entry]) fun k =>
    (if ingested.finished then k.finished else (k, [])).andThen publish

/-- The poll timer ticks. -/
def tick (k : Keeper) (now : Nat) : Turn :=
  askByTimer { k with nextTick := now + k.settings.pollPeriod }

/-- The time for a stop is over: the run ends whatever the engine says. -/
def expire (k : Keeper) : Turn :=
  let (board, ended) := k.board.forceIdle
  let forced : Turn :=
    if ended then Turn.andThen (ask { k with deadline := none, board := board }) publish
    else ({ k with deadline := none, board := board }, [])
  let reply : Reply :=
    match k.stopError with
    | some why => .error (.remoteFailed why)
    | none => .stopped .timedOut
  forced.andThen (release reply)

/-- Answers a request. -/
def answer (k : Keeper) (now caller : Nat) : Request → Turn
  | .load => k.load caller
  | .start params => k.start caller params
  | .stop => k.stop now caller
  | .view => (k, [.reply caller (.view k.board.view)])
  | .shutdown => (k, [])

/-- Takes in the return of a call. -/
def takeReturn (k : Keeper) (now : Nat) : Return → Turn
  | .loaded caller result => k.loaded caller result
  | .started caller epoch (.ok _) => k.startTaken now caller epoch
  | .started caller epoch (.error e) => k.startRefused caller epoch e
  | .stopped epoch result => k.stopAnswered epoch result
  | .polled epoch scheduled result => k.polled epoch scheduled result

/-- What a monitor does about what happens to it. -/
def handle (k : Keeper) (now : Nat) : Event → Turn
  | .request caller r => k.answer now caller r
  | .returned r => k.takeReturn now r
  | .log e at_ => k.ingest e at_
  | .tick => k.tick now
  | .deadline => k.expire

/-- What a monitor does about things that happen one after the other, each at its time. -/
def run (k : Keeper) : List (Nat × Event) → Turn
  | [] => (k, [])
  | (now, e) :: rest => (k.handle now e).andThen fun k => k.run rest

end Keeper

end Overseer.Monitor
