import Overseer.Json.Record
import Overseer.Text.Blank
import Overseer.Text.Lowercase
import Overseer.Time.Stamp

/-!
# Log lines

What the engine has to say while it works: events as they are pushed, and entries once they are
taken into the log. Some messages end a run.
-/

namespace Overseer.Batch

open Overseer.Json Overseer.Text Overseer.Time

/-- How serious a log line is. -/
inductive Severity where
  | info
  | success
  | error
  deriving DecidableEq, Repr, Inhabited

namespace Severity

/-- The name of a severity. -/
def text : Severity → String
  | .info => "info"
  | .success => "success"
  | .error => "error"

/-- The severities by name. -/
def names : List (String × Severity) := [("info", .info), ("success", .success), ("error", .error)]

/-- The severity that a person means, in any letter case and with blanks around it; what is no
name comes back in lower case. -/
def ofSpoken (s : String) : Except String Severity :=
  let s := lowercase (trim s)
  match Table.find s names with
  | some v => .ok v
  | none => .error s

/-- The wording for a text that is no severity. -/
def unknownMessage (s : String) : String := "Unknown severity: " ++ s

end Severity

/-- The id that lines about the batch as a whole carry. -/
def systemId : String := "SYSTEM"

/-- The messages that end a run. -/
def closingMessages : List String :=
  ["All tasks completed", "Tasks stopped by user", "Run stopped by operator"]

/-- A message that ends a run, in any ASCII letter case and with blanks around it. -/
def closing (message : String) : Bool :=
  let m := trim message
  closingMessages.any fun c => sameLetters c m

/-- A log line as the engine pushes it. -/
structure LogEvent where
  /-- The account that it is about. -/
  account : String
  message : String
  severity : Severity
  /-- When the engine wrote it, by its own clock in milliseconds. -/
  emittedAt : Option Int
  deriving DecidableEq, Repr, Inhabited

namespace LogEvent

/-- Whether the line ends a run. -/
def closing (e : LogEvent) : Bool := Batch.closing e.message

/-- The fields of an event. -/
def shape : Shape LogEvent where
  fields := [
    field ["entity_id", "address"] true readText fun v r => { r with account := v },
    field ["message"] true readText fun v r => { r with message := v },
    field ["severity", "level"] false (readName Severity.names) fun v r => { r with severity := v },
    field ["emitted_at_ms", "timestamp"] false (readOptional readInt64)
      fun v r => { r with emittedAt := v }]
  other := none

/-- Reads an event. -/
def read : Decoder LogEvent := shape.read ⟨"", "", .info, none⟩

/-- A number or `null`. -/
def optionalInt : Option Int → Value
  | some n => .int n
  | none => .null

/-- An event as a value. -/
def toValue (e : LogEvent) : Value :=
  .object [("entity_id", .text e.account), ("message", .text e.message),
    ("severity", .text e.severity.text), ("emitted_at_ms", optionalInt e.emittedAt)]

end LogEvent

/-- A log line in the log. Entries are ordered by `seq` alone. -/
structure LogEntry where
  /-- The number of entries before it. -/
  seq : Nat
  event : LogEvent
  receivedAt : Moment
  deriving DecidableEq, Repr, Inhabited

namespace LogEntry

/-- Reads a moment. -/
def readMoment : Decoder Moment := fun m n =>
  match readText m n with
  | .ok s =>
    match Stamp.read s with
    | some t => .ok t
    | none => .error .badTime
  | .error e => .error e

/-- The fields of an entry. -/
def shape : Shape LogEntry where
  fields := [
    field ["seq"] true (readNat 64) fun v r => { r with seq := v },
    field ["entity_id"] true readText fun v r => { r with event := { r.event with account := v } },
    field ["message"] true readText fun v r => { r with event := { r.event with message := v } },
    field ["severity"] true (readName Severity.names)
      fun v r => { r with event := { r.event with severity := v } },
    field ["received_at"] true readMoment fun v r => { r with receivedAt := v },
    field ["emitted_at_ms"] false (readOptional readInt64)
      fun v r => { r with event := { r.event with emittedAt := v } }]
  other := none

/-- Reads an entry. -/
def read : Decoder LogEntry := shape.read ⟨0, ⟨"", "", .info, none⟩, ⟨0, 0⟩⟩

/-- An entry as a value. -/
def toValue (e : LogEntry) : Value :=
  .object [("seq", .nat e.seq), ("entity_id", .text e.event.account),
    ("message", .text e.event.message), ("severity", .text e.event.severity.text),
    ("received_at", .text e.receivedAt.text),
    ("emitted_at_ms", LogEvent.optionalInt e.event.emittedAt)]

end LogEntry

end Overseer.Batch
