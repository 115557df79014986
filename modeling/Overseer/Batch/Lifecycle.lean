import Overseer.Json.Record

/-!
# Lifecycle of a run

Nothing runs, a run is under way, or it was asked to stop.
-/

namespace Overseer.Batch

open Overseer.Json

/-- Where the current run stands. -/
inductive Lifecycle where
  /-- Nothing runs. -/
  | idle
  /-- A run is under way. -/
  | running
  /-- A run was asked to stop. -/
  | stopping
  deriving DecidableEq, Repr, Inhabited

namespace Lifecycle

/-- The name of a lifecycle. -/
def text : Lifecycle → String
  | .idle => "idle"
  | .running => "running"
  | .stopping => "stopping"

/-- The lifecycles by name. -/
def names : List (String × Lifecycle) :=
  [("idle", .idle), ("running", .running), ("stopping", .stopping)]

/-- Reads a lifecycle. -/
def read : Decoder Lifecycle := readName names

/-- Whether nothing runs. -/
def isIdle : Lifecycle → Bool
  | .idle => true
  | _ => false

end Lifecycle

end Overseer.Batch
