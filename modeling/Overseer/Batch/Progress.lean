import Overseer.Json.Record
import Overseer.Text.Blank
import Overseer.Text.Lowercase

/-!
# Progress of an account

Where an account stands in a batch, with a message and, after a success, what came out of it.
-/

namespace Overseer.Batch

open Overseer.Json Overseer.Text

/-- Where an account stands. -/
inductive Status where
  | pending
  | running
  | success
  | failed
  deriving DecidableEq, Repr, Inhabited

namespace Status

/-- The name of a status. -/
def text : Status → String
  | .pending => "pending"
  | .running => "running"
  | .success => "success"
  | .failed => "failed"

/-- The statuses by name. -/
def names : List (String × Status) :=
  [("pending", .pending), ("running", .running), ("success", .success), ("failed", .failed)]

/-- The names that a person may use for a status. -/
def spokenNames : List (String × Status) :=
  [("pending", .pending), ("running", .running), ("in-progress", .running),
    ("in_progress", .running), ("success", .success), ("succeeded", .success), ("ok", .success),
    ("failed", .failed), ("failure", .failed), ("error", .failed)]

/-- A status after which nothing more happens to the account. -/
def terminal : Status → Bool
  | .success | .failed => true
  | _ => false

/-- The status that a person means, in any letter case and with blanks around it; what is no name
comes back in lower case. -/
def ofSpoken (s : String) : Except String Status :=
  let s := lowercase (trim s)
  match Table.find s spokenNames with
  | some v => .ok v
  | none => .error s

/-- The wording for a text that is no status. -/
def unknownMessage (s : String) : String := "Unknown status: " ++ s

end Status

/-- The state of one account. -/
structure Progress where
  status : Status
  message : String
  detail : Option String
  deriving DecidableEq, Repr, Inhabited

namespace Progress

/-- An account that no run has touched. -/
def ready : Progress := ⟨.pending, "Ready to start", none⟩

/-- An account at the start of a run. -/
def pending : Progress := ⟨.pending, "pending", none⟩

/-- The fields of a state. -/
def shape : Shape Progress where
  fields := [
    field ["status"] true (readName Status.names) fun v r => { r with status := v },
    field ["message"] true readText fun v r => { r with message := v },
    field ["detail"] false (readOptional readText) fun v r => { r with detail := v }]
  other := none

/-- Reads a state. -/
def read : Decoder Progress := shape.read ⟨.pending, "", none⟩

end Progress

/-- A member that is left out when there is no value. -/
def optionalMember (key : String) (v : Option Value) : List (String × Value) :=
  match v with
  | some v => [(key, v)]
  | none => []

/-- A state as a value. -/
def Progress.toValue (p : Progress) : Value :=
  .object ([("status", .text p.status.text), ("message", .text p.message)] ++
    optionalMember "detail" (p.detail.map .text))

end Overseer.Batch
