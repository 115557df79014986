import Overseer.Batch.Progress

/-!
# Snapshots

What the engine knows about the accounts of a batch at one time: whether it is at work, and per
account how far it got.
-/

namespace Overseer.Batch

open Overseer.Json

/-- How far the engine got with an account. -/
structure Outcome where
  /-- Whether it is done with the account. -/
  finished : Bool
  success : Bool
  message : String
  detail : Option String
  deriving DecidableEq, Repr, Inhabited

namespace Outcome

/-- The fields of an outcome. -/
def shape : Shape Outcome where
  fields := [
    field ["finished"] true readBool fun v r => { r with finished := v },
    field ["success"] true readBool fun v r => { r with success := v },
    field ["message"] false readText fun v r => { r with message := v },
    field ["detail"] false (readOptional readText) fun v r => { r with detail := v }]
  other := none

/-- Reads an outcome. -/
def read : Decoder Outcome := shape.read ⟨false, false, "", none⟩

/-- An outcome as a value. -/
def toValue (o : Outcome) : Value :=
  .object ([("finished", .bool o.finished), ("success", .bool o.success),
    ("message", .text o.message)] ++ optionalMember "detail" (o.detail.map .text))

/-- The status that an outcome gives to an account. -/
def status (o : Outcome) : Status :=
  match o.finished, o.success with
  | false, _ => .running
  | true, true => .success
  | true, false => .failed

end Outcome

/-- The engine's answer to the question how far it got. -/
structure Snapshot where
  running : Bool
  /-- What it knows, by id of the account. -/
  outcomes : Table Outcome

namespace Snapshot

/-- The fields of a snapshot. -/
def shape : Shape Snapshot where
  fields := [
    field ["is_running"] false readBool fun v r => { r with running := v },
    field ["results"] false (readTable Outcome.read) fun v r => { r with outcomes := v }]
  other := none

/-- Nothing is known and nothing runs. -/
def empty : Snapshot := ⟨false, .empty⟩

/-- Reads a snapshot. -/
def read : Decoder Snapshot := shape.read empty

/-- A snapshot as a value. -/
def toValue (s : Snapshot) : Value :=
  .object [("is_running", .bool s.running),
    ("results", .object (s.outcomes.map Outcome.toValue).entries)]

end Snapshot

end Overseer.Batch
