import Overseer.Monitor.Settings
import Overseer.Monitor.View

/-!
# The board

All that a monitor knows: roster, journal and run, and the gate that a run passes when the engine
has taken its start. A message that ends a run is held while the gate is closed.
-/

namespace Overseer.Monitor

open Overseer.Batch Overseer.Time

/-- The state of a monitor that its operations mutate: the registry of accounts, the run log and the
controller of the run, with the gate for the acknowledgement of its start. -/
structure Board where
  roster : Roster
  journal : Journal
  run : Run
  /-- The run whose start the engine has not taken yet. -/
  awaiting : Option Nat
  /-- Whether a message that ends the run came before that. -/
  held : Bool
  /-- How many log lines a view shows. -/
  viewTail : Nat

/-- What became of a log event. -/
structure Ingested where
  entry : LogEntry
  /-- Whether it ended the run. -/
  finished : Bool
  deriving DecidableEq, Repr

namespace Board

/-- Nothing is known. -/
def initial (s : Settings) : Board :=
  ⟨.empty, .withCapacity s.logCapacity, .initial, none, false, s.viewTail⟩

/-- Where the run stands. -/
def lifecycle (b : Board) : Lifecycle := b.run.lifecycle

/-- The number of the run. -/
def epoch (b : Board) : Nat := b.run.epoch

/-- Replaces the accounts, unless a run is under way. -/
def load (b : Board) (accounts : List Account) : Except MonitorError (Board × Reload) :=
  if b.lifecycle.isIdle then
    let (roster, report) := b.roster.replace accounts
    .ok ({ b with roster := roster }, report)
  else .error .alreadyRunning

/-- Begins a run: every account is pending and the log is empty. -/
def beginRun (b : Board) : Except MonitorError Board :=
  match b.run.begin b.roster.size with
  | .error e => .error e
  | .ok run =>
    .ok { b with
      roster := b.roster.resetAll .pending
      journal := b.journal.clear
      run := run
      awaiting := some run.epoch
      held := false }

/-- The engine has taken the start of a run; whether a held message ends it at once. -/
def acknowledge (b : Board) (epoch : Nat) : Board × Bool :=
  if b.awaiting = some epoch then
    if b.held then
      let (run, ended) := b.run.finish
      ({ b with awaiting := none, held := false, run := run }, ended)
    else ({ b with awaiting := none }, false)
  else (b, false)

/-- The message of accounts whose run could not start. -/
def refusalMessage (reason : String) : String := "start failed: " ++ reason

/-- The engine has refused the start of a run; whether that ends the run. -/
def rollback (b : Board) (epoch : Nat) (reason : String) : Board × Bool :=
  let b := if b.awaiting = some epoch then { b with awaiting := none, held := false } else b
  match b.run.rollback epoch with
  | (run, true) =>
    ({ b with run := run, roster := b.roster.setMessages (refusalMessage reason) }, true)
  | (_, false) => (b, false)

/-- Takes a log event into the journal. A closing message ends the run. -/
def ingest (b : Board) (e : LogEvent) (at_ : Moment) : Board × Ingested :=
  let entry := b.journal.entryOf e at_
  let b := { b with journal := b.journal.append e at_ }
  if e.closing = false ∨ b.lifecycle.isIdle then (b, ⟨entry, false⟩)
  else if b.awaiting.isSome then ({ b with held := true }, ⟨entry, false⟩)
  else
    let (run, ended) := b.run.finish
    ({ b with run := run }, ⟨entry, ended⟩)

/-- Merges what the engine answered to a question that was put in a run; nothing if that is not
this run. -/
def applyPoll (b : Board) (epoch : Nat) (s : Snapshot) : Option (Board × Report) :=
  if b.run.isCurrent epoch then
    let (roster, report) := b.roster.reconcile s
    some ({ b with roster := roster }, report)
  else none

/-- Asks the run to stop. -/
def beginStop (b : Board) : Board × StopRequest :=
  let (run, found) := b.run.beginStop
  ({ b with run := run }, found)

/-- Ends the run whatever the engine says; whether there was one. -/
def forceIdle (b : Board) : Board × Bool :=
  let (run, ended) := b.run.finish
  ({ b with run := run, awaiting := none, held := false }, ended)

/-- What is shown of it. -/
def view (b : Board) : View := .project b.run b.roster b.journal b.viewTail

end Board

end Overseer.Monitor
