import Overseer.Proofs.Batch.Params
import Overseer.Wire.Envelope

/-!
# Messages read back

What a message holds is a record, and each record reads back where there is room for it.  Only the
parameters of a command can be nested deeply, so all others ask for so many levels at least.

* `Message.read_of_writtenAs` : **what a message holds reads back** by the reader that its kind
  names, in whatever order its maps are written.
* `Message.integral_of_writtenAs` : the numbers in a message are integers of 64 bits.
-/

namespace Overseer.Wire

open Json Batch

variable {m : Mode}

/-- What the types of a message promise: numbers of so many bits, and valid parameters. -/
def Message.Valid : Message → Prop
  | .log e => ∀ n, e.emittedAt = some n → Signed n
  | .statusRequest epoch => Fits 64 epoch
  | .status s => ∀ n, s.epoch = some n → Fits 64 n
  | .command c => ∀ p, c.params = some p → p.Valid
  | _ => True

/-! ### What messages hold -/

theorem Hello.read_toValue (h : Hello) (room : 2 ≤ m.room) :
    Hello.read m h.toValue.node = .ok h := by
  have capabilities : readList readText m.inner (Value.array (h.capabilities.map .text)).node =
      .ok h.capabilities :=
    readList_node (fun s _ => readText_node _ s) (Nat.sub_ne_zero_of_lt room)
  have start := Shape.makes_nil Hello.shape ⟨"", "", []⟩ m.inner
  have h1 := start.field "client_id" rfl rfl (readText_node _ h.client)
  have h2 := h1.field "role" rfl rfl (readText_node _ h.role)
  have h3 := h2.field "capabilities" rfl rfl capabilities
  exact h3.read (Nat.ne_of_gt (Nat.lt_of_lt_of_le (by decide) room))

theorem TaskReport.read_toValue (r : TaskReport) (room : m.room ≠ 0) :
    TaskReport.read m r.toValue.node = .ok r := by
  have start := Shape.makes_nil TaskReport.shape ⟨none, false, "", none⟩ m.inner
  have h1 := start.optional "finished" rfl rfl (x := r.finished) (f := .bool)
    (fun b _ => ⟨readBool_node _ b, nofun⟩) rfl
  have h2 := h1.field "success" rfl rfl (readBool_node _ r.success)
  have h3 := h2.field "message" rfl rfl (readText_node _ r.message)
  have h4 := h3.optional "detail" rfl rfl (x := r.detail) (f := .text)
    (fun s _ => ⟨readText_node _ s, nofun⟩) rfl
  rw [TaskReport.toValue]
  simp only [List.nil_append, List.append_assoc] at h4 ⊢
  exact h4.read room

theorem StatusReport.read_toValueIn {s : StatusReport} {l : List (String × TaskReport)}
    (valid : ∀ n, s.epoch = some n → Fits 64 n) (order : l.Perm s.results.entries)
    (room : 3 ≤ m.room) : StatusReport.read m (s.toValueIn l).node = .ok s := by
  have epoch : readOptional (readNat 64) m.inner
      (LogEvent.optionalInt (s.epoch.map Int.ofNat)).node = .ok s.epoch := by
    cases h : s.epoch with
    | none => exact readOptional_null _ _
    | some n => exact readOptional_node (readNat_node (valid n h) (by decide) _) nofun
  have results : readTable TaskReport.read m.inner
      (Value.object (l.map fun e => (e.1, e.2.toValue))).node = .ok s.results := by
    refine readTable_node order (fun e _ => TaskReport.read_toValue e.2 ?_) ?_
    · show m.room - 1 - 1 ≠ 0
      omega
    · show m.room - 1 ≠ 0
      omega
  have start := Shape.makes_nil StatusReport.shape ⟨none, false, .empty⟩ m.inner
  have h1 := start.field "epoch" rfl rfl epoch
  have h2 := h1.field "is_running" rfl rfl (readBool_node _ s.running)
  have h3 := h2.field "results" rfl rfl results
  exact h3.read (by omega)

theorem find_text_order (o : Order) : Table.find o.text Order.names = some o := by
  cases o <;> rfl

theorem CommandResult.read_toValue (r : CommandResult) (room : m.room ≠ 0) :
    CommandResult.read m r.toValue.node = .ok r := by
  have verdict : Table.find r.verdict.text Verdict.names = some r.verdict := by
    cases r.verdict <;> rfl
  have message : readOptional readText m.inner ((r.message.map Value.text).getD .null).node =
      .ok r.message := by
    cases r.message with
    | none => exact readOptional_null _ _
    | some s => exact readOptional_node (readText_node _ s) nofun
  have start := Shape.makes_nil CommandResult.shape ⟨.start, .accepted, none⟩ m.inner
  have h1 := start.field "command" rfl rfl (readName_node (find_text_order r.order) _)
  have h2 := h1.field "status" rfl rfl (readName_node verdict _)
  have h3 := h2.field "message" rfl rfl message
  exact h3.read room

theorem Command.read_toValueIn {c : Command} {params : Option Value}
    (valid : ∀ p, c.params = some p → p.Valid)
    (written : Option.Rel Params.WrittenAs c.params params)
    (deep : (c.toValueIn params).depth ≤ m.room) :
    Command.read m (c.toValueIn params).node = .ok c := by
  obtain ⟨order, ps⟩ := c
  have room : m.room ≠ 0 := by
    rw [Command.toValueIn, Value.depth] at deep
    omega
  have start := Shape.makes_nil Command.shape ⟨.start, none⟩ m.inner
  have h1 := start.field "command" rfl rfl (readName_node (find_text_order order) _)
  cases written with
  | none =>
    exact (h1.optional "params" rfl rfl (x := none) (f := Params.toValue) nofun rfl).read room
  | @some p v hv =>
    have lt : v.depth < (Command.toValueIn ⟨order, some p⟩ (some v)).depth :=
      depth_lt_of_mem (m := ("params", v)) (List.mem_append_right _ (List.mem_singleton.2 rfl))
    have inside : v.depth ≤ m.inner.room := by
      show v.depth ≤ m.room - 1
      omega
    have hp : Params.read m.inner v.node = .ok p :=
      Params.read_of_writtenAs (valid p rfl) hv inside
    have hne : v ≠ .null := by
      obtain ⟨extra, -, rfl⟩ := hv
      exact nofun
    exact (h1.field "params" rfl rfl (readOptional_node hp hne)).read room

theorem readStatusRequest_toValue {epoch : Nat} (h : Fits 64 epoch) (room : m.room ≠ 0) :
    readStatusRequest m (Value.object [("epoch", .nat epoch)]).node = .ok epoch := by
  have start := Shape.makes_nil statusRequestShape 0 m.inner
  have h1 := start.field "epoch" rfl rfl (readNat_node h (by decide) _)
  exact h1.read room

theorem FinishReason.read_toValue (reason : FinishReason) (room : m.room ≠ 0) :
    FinishReason.read m (Value.object [("reason", .text reason.text)]).node = .ok reason := by
  have name : Table.find reason.text FinishReason.names = some reason := by
    cases reason <;> rfl
  have start := Shape.makes_nil FinishReason.shape .completed m.inner
  have h1 := start.field "reason" rfl rfl (readName_node name _)
  exact h1.read room

theorem Message.writtenAs_payload (msg : Message) : msg.WrittenAs msg.payload := by
  cases msg with
  | status s => exact ⟨_, .refl _, rfl⟩
  | command c =>
    refine ⟨_, ?_, rfl⟩
    cases c.params with
    | none => exact .none
    | some p => exact .some p.writtenAs_toValue
  | _ => rfl

/-- **What a message holds reads back** by the reader that its kind names, in whatever order its
maps are written. -/
theorem Message.read_of_writtenAs {msg : Message} {v : Value} (valid : msg.Valid)
    (written : msg.WrittenAs v) (deep : v.depth ≤ m.room) (room : 3 ≤ m.room) :
    ∃ reader, Table.find msg.kind Message.kinds = some reader ∧ reader m v.node = .ok msg := by
  have enter : m.room ≠ 0 := by omega
  cases msg with
  | hello h =>
    obtain rfl : v = h.toValue := written
    exact ⟨_, rfl, congrArg (Except.map Message.hello) (Hello.read_toValue h (by omega))⟩
  | log e =>
    obtain rfl : v = e.toValue := written
    exact ⟨_, rfl, congrArg (Except.map Message.log) (LogEvent.read_toValue valid enter)⟩
  | statusRequest epoch =>
    obtain rfl : v = .object [("epoch", .nat epoch)] := written
    have read := readStatusRequest_toValue valid enter
    exact ⟨_, rfl, congrArg (Except.map Message.statusRequest) read⟩
  | status s =>
    obtain ⟨results, order, rfl⟩ := written
    have read := StatusReport.read_toValueIn valid order room
    exact ⟨_, rfl, congrArg (Except.map Message.status) read⟩
  | command c =>
    obtain ⟨params, hparams, rfl⟩ := written
    have read := Command.read_toValueIn valid hparams deep
    exact ⟨_, rfl, congrArg (Except.map Message.command) read⟩
  | commandResult r =>
    obtain rfl : v = r.toValue := written
    exact ⟨_, rfl, congrArg (Except.map Message.commandResult) (CommandResult.read_toValue r enter)⟩
  | runFinished reason =>
    obtain rfl : v = .object [("reason", .text reason.text)] := written
    have read := FinishReason.read_toValue reason enter
    exact ⟨_, rfl, congrArg (Except.map Message.runFinished) read⟩

/-! ### Numbers in messages -/

theorem integral_taskReport (r : TaskReport) : r.toValue.integral := by
  simp only [TaskReport.toValue, Value.integral, integralMembers_append, Bool.and_eq_true]
  exact ⟨⟨integral_optionalMember _ fun _ _ => rfl, rfl⟩, integral_optionalMember _ fun _ _ => rfl⟩

theorem Message.integral_of_writtenAs {msg : Message} {v : Value} (valid : msg.Valid)
    (written : msg.WrittenAs v) : v.integral := by
  cases msg with
  | hello h =>
    obtain rfl : v = h.toValue := written
    simp [Hello.toValue, Value.integral, integralMembers, integralItems_iff]
  | log e =>
    obtain rfl : v = e.toValue := written
    have time : (LogEvent.optionalInt e.emittedAt).integral := by
      cases h : e.emittedAt with
      | none => rfl
      | some n => exact integral_int (valid n h).inRange
    simp [LogEvent.toValue, Value.integral, integralMembers, time]
  | statusRequest epoch =>
    obtain rfl : v = .object [("epoch", .nat epoch)] := written
    simp [Value.integral, integralMembers, integral_nat valid]
  | status s =>
    obtain ⟨results, -, rfl⟩ := written
    have epoch : (LogEvent.optionalInt (s.epoch.map Int.ofNat)).integral := by
      cases h : s.epoch with
      | none => rfl
      | some n => exact integral_nat (valid n h)
    have results : integralMembers (results.map fun e => (e.1, e.2.toValue)) := by
      rw [integralMembers_iff]
      intro e he
      obtain ⟨r, -, rfl⟩ := List.mem_map.1 he
      exact integral_taskReport r.2
    simp [StatusReport.toValueIn, Value.integral, integralMembers, epoch, results]
  | command c =>
    obtain ⟨params, hparams, rfl⟩ := written
    obtain ⟨order, ps⟩ := c
    cases hparams with
    | none => rfl
    | some hv =>
      have params := Params.integral_of_writtenAs (valid _ rfl) hv
      simp [Command.toValueIn, optionalMember, Value.integral, integralMembers, params]
  | commandResult r =>
    obtain rfl : v = r.toValue := written
    cases h : r.message <;> simp [CommandResult.toValue, Value.integral, integralMembers, h]
  | runFinished reason =>
    obtain rfl : v = .object [("reason", .text reason.text)] := written
    rfl

end Overseer.Wire
