import Overseer.Batch.Lifecycle
import Overseer.Monitor.Error

/-!
# Runs

Where the current run stands, and its number. Every run that begins takes a new number, and numbers
are never used again.
-/

namespace Overseer.Monitor

open Overseer.Batch

/-- The batch controller: lifecycle and epoch of the current run, or of the last one. -/
structure Run where
  lifecycle : Lifecycle
  /-- Its number, or zero before the first one. -/
  epoch : Nat
  deriving DecidableEq, Repr

/-- What a request to stop finds. -/
inductive StopRequest where
  /-- Nothing runs. -/
  | alreadyIdle
  /-- A run was under way and is to stop. -/
  | requested
  /-- The run was asked to stop before. -/
  | alreadyStopping
  deriving DecidableEq, Repr

namespace Run

/-- No run yet. -/
def initial : Run := ⟨.idle, 0⟩

/-- Whether an epoch is that of this run. -/
def isCurrent (r : Run) (epoch : Nat) : Bool := epoch == r.epoch

/-- Begins a run over so many accounts. -/
def begin (r : Run) (accounts : Nat) : Except MonitorError Run :=
  if r.lifecycle.isIdle = false then .error .alreadyRunning
  else if accounts = 0 then .error .noAccounts
  else .ok ⟨.running, r.epoch + 1⟩

/-- Takes back the start of a run. -/
def rollback (r : Run) (epoch : Nat) : Run × Bool :=
  if r.isCurrent epoch = false ∨ r.lifecycle.isIdle then (r, false)
  else ({ r with lifecycle := .idle }, true)

/-- Asks the run to stop. -/
def beginStop (r : Run) : Run × StopRequest :=
  match r.lifecycle with
  | .idle => (r, .alreadyIdle)
  | .stopping => (r, .alreadyStopping)
  | .running => ({ r with lifecycle := .stopping }, .requested)

/-- Ends the run; whether there was one. -/
def finish (r : Run) : Run × Bool :=
  if r.lifecycle.isIdle then (r, false) else ({ r with lifecycle := .idle }, true)

end Run

end Overseer.Monitor
