import Overseer.Batch.Log
import Overseer.Batch.Params
import Overseer.Batch.Snapshot

/-!
# Messages

What monitor and engine tell each other. Requests are commands and questions for the status; the
engine answers them, and pushes log lines and the end of a run on its own.
-/

namespace Overseer.Wire

open Overseer.Json Overseer.Batch Overseer.Text

/-- How a party introduces itself. -/
structure Hello where
  client : String
  role : String
  capabilities : List String
  deriving DecidableEq, Repr

/-- How far the engine got with an account, as it says so. Not every engine says whether it is
finished. -/
structure TaskReport where
  /-- Whether the engine is done with the account, if it says so. -/
  finished : Option Bool
  success : Bool
  message : String
  detail : Option String
  deriving DecidableEq, Repr

/-- The engine's answer to the question for the status. -/
structure StatusReport where
  /-- The run that the question was about. -/
  epoch : Option Nat
  running : Bool
  /-- What it knows, by id of the account. -/
  results : Table TaskReport

/-- What the engine can be told to do. -/
inductive Order where
  | start
  | stop
  deriving DecidableEq, Repr

/-- An order with its parameters. -/
structure Command where
  order : Order
  params : Option Params

/-- What the engine made of an order. -/
inductive Verdict where
  | accepted
  | rejected
  | error
  deriving DecidableEq, Repr

/-- The engine's answer to an order. -/
structure CommandResult where
  order : Order
  verdict : Verdict
  message : Option String
  deriving DecidableEq, Repr

/-- Why a run ended. -/
inductive FinishReason where
  /-- All accounts are done. -/
  | completed
  | stopped
  deriving DecidableEq, Repr

/-- A message. -/
inductive Message where
  | hello (h : Hello)
  | log (e : LogEvent)
  /-- The question for the status in a run. -/
  | statusRequest (epoch : Nat)
  | status (s : StatusReport)
  | command (c : Command)
  | commandResult (r : CommandResult)
  | runFinished (reason : FinishReason)

/-! ### Meaning -/

namespace TaskReport

/-- The message of an account that is being worked on, from engines that do not say whether they
are finished. -/
def runningMessage : String := "Running..."

/-- Whether the engine is done: what it says, or else every message but `runningMessage`. -/
def isFinished (r : TaskReport) : Bool :=
  r.finished.getD (r.success || trim r.message != runningMessage)

/-- The outcome that a report means: only what is finished can be a success. -/
def toOutcome (r : TaskReport) : Outcome :=
  ⟨r.isFinished, r.isFinished && r.success, r.message, r.detail⟩

/-- The report of an outcome. -/
def ofOutcome (o : Outcome) : TaskReport := ⟨some o.finished, o.success, o.message, o.detail⟩

end TaskReport

namespace StatusReport

/-- The snapshot that a report means. -/
def toSnapshot (s : StatusReport) : Snapshot := ⟨s.running, s.results.map TaskReport.toOutcome⟩

/-- The report of a snapshot. -/
def ofSnapshot (epoch : Option Nat) (s : Snapshot) : StatusReport :=
  ⟨epoch, s.running, s.outcomes.map TaskReport.ofOutcome⟩

end StatusReport

/-- The log line that says the same as the end of a run. -/
def FinishReason.toLogEvent : FinishReason → LogEvent
  | .completed => ⟨systemId, "All tasks completed", .success, none⟩
  | .stopped => ⟨systemId, "Run stopped by operator", .info, none⟩

/-- The name of an order. -/
def Order.text : Order → String
  | .start => "start"
  | .stop => "stop"

/-- The kind of a message. -/
def Message.kind : Message → String
  | .hello _ => "hello"
  | .log _ => "log"
  | .statusRequest _ => "status_request"
  | .status _ => "status"
  | .command _ => "command"
  | .commandResult _ => "command_result"
  | .runFinished _ => "run_finished"

/-! ### Reading -/

/-- The fields of an introduction. -/
def Hello.shape : Shape Hello where
  fields := [
    field ["client_id"] true readText fun v r => { r with client := v },
    field ["role"] true readText fun v r => { r with role := v },
    field ["capabilities"] false (readList readText) fun v r => { r with capabilities := v }]
  other := none

/-- Reads an introduction. -/
def Hello.read : Decoder Hello := Hello.shape.read ⟨"", "", []⟩

/-- The fields of a report on an account. -/
def TaskReport.shape : Shape TaskReport where
  fields := [
    field ["finished"] false (readOptional readBool) fun v r => { r with finished := v },
    field ["success"] true readBool fun v r => { r with success := v },
    field ["message"] false readText fun v r => { r with message := v },
    field ["detail", "jwt"] false (readOptional readText) fun v r => { r with detail := v }]
  other := none

/-- Reads a report on an account. -/
def TaskReport.read : Decoder TaskReport := TaskReport.shape.read ⟨none, false, "", none⟩

/-- The fields of a status. -/
def StatusReport.shape : Shape StatusReport where
  fields := [
    field ["epoch"] false (readOptional (readNat 64)) fun v r => { r with epoch := v },
    field ["is_running"] false readBool fun v r => { r with running := v },
    field ["results"] false (readTable TaskReport.read) fun v r => { r with results := v }]
  other := none

/-- Reads a status. -/
def StatusReport.read : Decoder StatusReport := StatusReport.shape.read ⟨none, false, .empty⟩

/-- The orders by name. -/
def Order.names : List (String × Order) := [("start", .start), ("stop", .stop)]

/-- The verdicts by name. -/
def Verdict.names : List (String × Verdict) :=
  [("accepted", .accepted), ("rejected", .rejected), ("error", .error)]

/-- The reasons by name. -/
def FinishReason.names : List (String × FinishReason) :=
  [("completed", .completed), ("stopped", .stopped)]

/-- The fields of an order. -/
def Command.shape : Shape Command where
  fields := [
    field ["command"] true (readName Order.names) fun v r => { r with order := v },
    field ["params"] false (readOptional Params.read) fun v r => { r with params := v }]
  other := none

/-- Reads an order with its parameters. -/
def Command.read : Decoder Command := Command.shape.read ⟨.start, none⟩

/-- The fields of the answer to an order. -/
def CommandResult.shape : Shape CommandResult where
  fields := [
    field ["command"] true (readName Order.names) fun v r => { r with order := v },
    field ["status"] true (readName Verdict.names) fun v r => { r with verdict := v },
    field ["message"] false (readOptional readText) fun v r => { r with message := v }]
  other := none

/-- Reads the answer to an order. -/
def CommandResult.read : Decoder CommandResult := CommandResult.shape.read ⟨.start, .accepted, none⟩

/-- The only field of the question for the status. -/
def statusRequestShape : Shape Nat := ⟨[field ["epoch"] true (readNat 64) fun v _ => v], none⟩

/-- Reads the question for the status. -/
def readStatusRequest : Decoder Nat := statusRequestShape.read 0

/-- The only field of the end of a run. -/
def FinishReason.shape : Shape FinishReason :=
  ⟨[field ["reason"] true (readName FinishReason.names) fun v _ => v], none⟩

/-- Reads the end of a run. -/
def FinishReason.read : Decoder FinishReason := FinishReason.shape.read .completed

/-- The kinds of messages by name, each with the reader of what such a message holds. -/
def Message.kinds : List (String × Decoder Message) := [
  ("hello", fun m n => (Hello.read m n).map .hello),
  ("log", fun m n => (LogEvent.read m n).map .log),
  ("status_request", fun m n => (readStatusRequest m n).map .statusRequest),
  ("status", fun m n => (StatusReport.read m n).map .status),
  ("command", fun m n => (Command.read m n).map .command),
  ("command_result", fun m n => (CommandResult.read m n).map .commandResult),
  ("run_finished", fun m n => (FinishReason.read m n).map .runFinished)]

/-! ### Writing -/

/-- An introduction as a value. -/
def Hello.toValue (h : Hello) : Value :=
  .object [("client_id", .text h.client), ("role", .text h.role),
    ("capabilities", .array (h.capabilities.map .text))]

/-- A report on an account as a value. -/
def TaskReport.toValue (r : TaskReport) : Value :=
  .object (optionalMember "finished" (r.finished.map .bool) ++
    [("success", .bool r.success), ("message", .text r.message)] ++
    optionalMember "detail" (r.detail.map .text))

/-- A status as a value, with the results as they are listed here. -/
def StatusReport.toValueIn (s : StatusReport) (results : List (String × TaskReport)) : Value :=
  .object [("epoch", LogEvent.optionalInt (s.epoch.map Int.ofNat)), ("is_running", .bool s.running),
    ("results", .object (results.map fun e => (e.1, e.2.toValue)))]

/-- A status as a value, with the results in ascending order. -/
def StatusReport.toValue (s : StatusReport) : Value := s.toValueIn s.results.entries

/-- The name of a verdict. -/
def Verdict.text : Verdict → String
  | .accepted => "accepted"
  | .rejected => "rejected"
  | .error => "error"

/-- The name of a reason. -/
def FinishReason.text : FinishReason → String
  | .completed => "completed"
  | .stopped => "stopped"

/-- An order as a value, with its parameters as they are given here. -/
def Command.toValueIn (c : Command) (params : Option Value) : Value :=
  .object ([("command", .text c.order.text)] ++ optionalMember "params" params)

/-- An order with its parameters as a value. -/
def Command.toValue (c : Command) : Value := c.toValueIn (c.params.map Params.toValue)

/-- The answer to an order as a value. -/
def CommandResult.toValue (r : CommandResult) : Value :=
  .object [("command", .text r.order.text), ("status", .text r.verdict.text),
    ("message", (r.message.map Value.text).getD .null)]

/-- What a message holds, as a value. -/
def Message.payload : Message → Value
  | .hello h => h.toValue
  | .log e => e.toValue
  | .statusRequest epoch => .object [("epoch", .nat epoch)]
  | .status s => s.toValue
  | .command c => c.toValue
  | .commandResult r => r.toValue
  | .runFinished reason => .object [("reason", .text reason.text)]

/-- The values that what a message holds may be written as. The results of a status come from a hash
map, as do the parameters of an order that are not known, so in any order; all else is written in
one way. -/
def Message.WrittenAs (msg : Message) (v : Value) : Prop :=
  match msg with
  | .status s =>
    ∃ results : List (String × TaskReport), results.Perm s.results.entries ∧ v = s.toValueIn results
  | .command c =>
    ∃ params : Option Value, Option.Rel Params.WrittenAs c.params params ∧ v = c.toValueIn params
  | msg => v = msg.payload

end Overseer.Wire
