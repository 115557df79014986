import Overseer.Proofs.Wire.Messages

/-!
# Envelopes read back

The kind of a message and what it holds are no fields of the envelope: they are kept as written
while the other members are read, and read when all members are known.  Whatever the message, its
envelope reads back from its JSON text.

* `Envelope.read_of_writtenAs` : an envelope reads back from each document that it may be written
  as.
* `Envelope.readDocument_write` : **an envelope reads back** from its text, in whatever order its
  maps are written.
-/

namespace Overseer.Wire

open Json Batch

namespace Envelope

/-- What the types of an envelope promise: a version of 16 bits and a valid message. -/
structure Valid (e : Envelope) : Prop where
  version : Fits 16 e.version
  message : e.message.Valid

theorem writtenAs_toValue (e : Envelope) : e.WrittenAs e.toValue :=
  ⟨_, e.message.writtenAs_payload, rfl⟩

theorem integral_of_writtenAs {e : Envelope} {v : Value} (valid : e.Valid)
    (written : e.WrittenAs v) : v.integral := by
  obtain ⟨payload, hpayload, rfl⟩ := written
  have version := integral_nat (valid.version.mono (by decide))
  have request := integral_optionalMember "request_id" (f := Value.text) (x := e.requestId)
    fun _ _ => rfl
  have inside := Message.integral_of_writtenAs valid.message hpayload
  simp only [toValueIn, Value.integral, integralMembers_append, Bool.and_eq_true]
  refine ⟨⟨?_, request⟩, ?_⟩
  · simp [integralMembers, version, Value.integral]
  · simp [integralMembers, Value.integral, inside]

theorem spill_kind {m : Mode} {v v' : Value} {d : Draft} (h : readValue m v.node = .ok v')
    (none : d.kind = none) : spill m "type" v.node d = .ok { d with kind := some v.node } := by
  simp [spill, h, none]

theorem spill_payload {m : Mode} {v v' : Value} {d : Draft} (h : readValue m v.node = .ok v')
    (none : d.payload = none) :
    spill m "payload" v.node d = .ok { d with payload := some v.node } := by
  simp [spill, h, none]

theorem message_of_written {d : Draft} {msg : Message} {v : Value} (valid : msg.Valid)
    (written : msg.WrittenAs v) (deep : v.depth ≤ 127)
    (kind : d.kind = some (Value.text msg.kind).node) (payload : d.payload = some v.node) :
    d.message = .ok msg := by
  obtain ⟨reader, find, read⟩ :=
    Message.read_of_writtenAs (m := .checked) valid written deep (by decide)
  rw [Draft.message, kind, payload]
  simp only [readName_node find]
  exact read

/-- The draft of an envelope whose members were all read, with what its message holds as written. -/
def written (e : Envelope) (payload : Value) : Draft :=
  ⟨e.version, e.sender, e.stamp, e.requestId, some (Value.text e.message.kind).node,
    some payload.node⟩

theorem shape_read_toValueIn {e : Envelope} {payload : Value} (valid : e.Valid)
    (integral : payload.integral) (deep : payload.depth ≤ 126) :
    shape.read ⟨currentVersion, "", "", none, none, none⟩ .direct (e.toValueIn payload).node =
      .ok (e.written payload) := by
  obtain ⟨kind, hkind, -⟩ := Value.exists_ofNode (.text e.message.kind) rfl 126 (Nat.zero_le _)
  obtain ⟨inside, hinside, -⟩ := payload.exists_ofNode integral 126 deep
  have start := Shape.makes_nil shape ⟨currentVersion, "", "", none, none, none⟩ Mode.direct.inner
  have h1 := start.field "version" rfl rfl (readNat_node valid.version (by decide) _)
  have h2 := h1.field "sender_id" rfl rfl (readText_node _ e.sender)
  have h3 := h2.field "timestamp" rfl rfl (readText_node _ e.stamp)
  have h4 := h3.optional "request_id" rfl rfl (x := e.requestId) (f := .text)
    (fun s _ => ⟨readText_node _ s, nofun⟩) rfl
  -- the kind and the payload are no fields, and are kept as written
  have h5 := h4.spill "type" rfl rfl (spill_kind hkind rfl)
  have h6 := h5.spill "payload" rfl rfl (spill_payload hinside rfl)
  have all := h6.read (by decide)
  rw [List.append_assoc _ _ [("payload", _)]] at all
  exact all

theorem read_of_writtenAs {e : Envelope} {v : Value} (valid : e.Valid) (written : e.WrittenAs v)
    (deep : v.depth < 128) : Envelope.read .direct v.node = .ok e := by
  obtain ⟨payload, hpayload, rfl⟩ := written
  -- the payload is nested one level less deeply than the envelope
  have lt : payload.depth < (e.toValueIn payload).depth :=
    depth_lt_of_mem (m := ("payload", payload)) (by simp)
  have message : (e.written payload).message = .ok e.message :=
    message_of_written valid.message hpayload (by omega) rfl rfl
  have integral := Message.integral_of_writtenAs valid.message hpayload
  rw [Envelope.read, shape_read_toValueIn valid integral (by omega)]
  simp only [message]
  rfl

/-- **An envelope reads back** from each text that it may be written as. -/
theorem readDocument_write {e : Envelope} {v : Value} (valid : e.Valid) (written : e.WrittenAs v)
    (deep : v.depth < 128) : Envelope.read.readDocument v.write = .ok e := by
  have read := read_of_writtenAs valid written deep
  have integral := integral_of_writtenAs valid written
  obtain ⟨payload, -, rfl⟩ := written
  have document : Json.read (e.toValueIn payload).write = ⟨(e.toValueIn payload).node, true⟩ :=
    read_write integral
  rw [Decoder.readDocument, document]
  simp only [read]
  rfl

end Envelope

end Overseer.Wire
