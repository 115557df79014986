import Overseer.Wire.Message

/-!
# Envelopes

A message with its sender, the version of the protocol and, for requests and their answers, the id
of the request. The kind of the message and what it holds are members of the envelope itself, in
any order.
-/

namespace Overseer.Wire

open Overseer.Json Overseer.Batch

/-- The version of the protocol that is spoken here. -/
def currentVersion : Nat := 1

/-- A message on its way. -/
structure Envelope where
  version : Nat
  sender : String
  /-- When it was sent, by the sender's clock. -/
  stamp : String
  /-- The request that it makes or answers. -/
  requestId : Option String
  message : Message

namespace Envelope

/-- An envelope in the middle of reading. -/
structure Draft where
  version : Nat
  sender : String
  stamp : String
  /-- The request that it makes or answers. -/
  requestId : Option String
  /-- The kind of the message, as written. -/
  kind : Option Node
  /-- What the message holds, as written. -/
  payload : Option Node

/-- Takes a member that is no field of the envelope. It is checked as a whole. -/
def spill (m : Mode) (key : String) (n : Node) (d : Draft) : Result Draft :=
  match readValue m n with
  | .error e => .error e
  | .ok _ =>
    if key = "type" then
      if d.kind.isSome then .error (.repeated key) else .ok { d with kind := some n }
    else if key = "payload" then
      if d.payload.isSome then .error (.repeated key) else .ok { d with payload := some n }
    else .ok d

/-- The fields of an envelope. -/
def shape : Shape Draft where
  fields := [
    field ["version"] false (readNat 16) fun v r => { r with version := v },
    field ["sender_id"] true readText fun v r => { r with sender := v },
    field ["timestamp"] true readText fun v r => { r with stamp := v },
    field ["request_id"] false (readOptional readText) fun v r => { r with requestId := v }]
  other := some spill

/-- Reads the message out of its kind and content. -/
def Draft.message (d : Draft) : Result Message :=
  match d.kind, d.payload with
  | none, _ => .error (.missing "type")
  | some _, none => .error (.missing "payload")
  | some kind, some payload =>
    match readName Message.kinds .checked kind with
    | .ok reader => reader .checked payload
    | .error e => .error e

/-- Reads an envelope. -/
def read : Decoder Envelope := fun m n =>
  match shape.read ⟨currentVersion, "", "", none, none, none⟩ m n with
  | .error e => .error e
  | .ok d => d.message.map fun msg => ⟨d.version, d.sender, d.stamp, d.requestId, msg⟩

/-- An envelope as a value, with what its message holds as given here. -/
def toValueIn (e : Envelope) (payload : Value) : Value :=
  .object ([("version", .nat e.version), ("sender_id", .text e.sender),
    ("timestamp", .text e.stamp)] ++ optionalMember "request_id" (e.requestId.map .text) ++
    [("type", .text e.message.kind), ("payload", payload)])

/-- An envelope as a value, with every map in ascending order. -/
def toValue (e : Envelope) : Value := e.toValueIn e.message.payload

/-- The values that an envelope may be written as. -/
def WrittenAs (e : Envelope) (v : Value) : Prop :=
  ∃ payload, e.message.WrittenAs payload ∧ v = e.toValueIn payload

end Envelope

end Overseer.Wire
