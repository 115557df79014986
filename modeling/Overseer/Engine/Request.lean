import Overseer.Monitor.Error
import Overseer.Wire.Envelope

/-!
# Requests

What the engine is asked for, the message that asks for it, and what the message that comes back
means. An answer of the wrong kind is a failure of the transport.
-/

namespace Overseer.Engine

open Overseer.Batch Overseer.Monitor Overseer.Wire

/-- What the engine is asked for. -/
inductive Request where
  | start (p : Params)
  | stop
  /-- How far it got in a run. -/
  | status (epoch : Nat)

/-- What comes of a request. -/
inductive Answer where
  /-- The engine does it. -/
  | taken
  /-- So far it got. -/
  | status (s : Snapshot)

/-- What an answer says about the run. That an order is taken says nothing. -/
def Answer.snapshot : Answer → Snapshot
  | .taken => .empty
  | .status s => s

/-- What a caller is told. -/
abbrev Response := Except RemoteError Answer

namespace Request

/-- The name of a request. -/
def name : Request → String
  | .start _ => Order.start.text
  | .stop => Order.stop.text
  | .status _ => "status_request"

/-- The message that asks for it. -/
def message : Request → Message
  | .start p => .command ⟨.start, some p⟩
  | .stop => .command ⟨.stop, none⟩
  | .status epoch => .statusRequest epoch

/-- The reason of an engine that gives none. -/
def noReason : String := "no reason given"

/-- A message that does not answer the request. -/
def unexpected (r : Request) (m : Message) : Response :=
  .error (.transport ("unexpected " ++ m.kind ++ " reply to " ++ r.name))

/-- What an engine makes of an order. It need not name the order. -/
def verdict (r : Request) (c : CommandResult) : Response :=
  match c.verdict with
  | .accepted => .ok .taken
  | .rejected | .error => .error (.rejected r.name (c.message.getD noReason))

/-- What a message means that comes back. -/
def interpret (r : Request) (m : Message) : Response :=
  match r, m with
  | .start _, .commandResult c | .stop, .commandResult c => r.verdict c
  | .status _, .status s => .ok (.status s.toSnapshot)
  | _, _ => r.unexpected m

end Request

/-- What a caller is told when there is no connection. -/
def notConnected (socket : String) : RemoteError :=
  .transport ("engine not connected at " ++ socket)

/-- What a caller is told when the connection ends first. -/
def closedEarly : RemoteError := .transport "engine connection closed before reply"

end Overseer.Engine
