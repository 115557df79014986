import Overseer.Batch.Log
import Overseer.Batch.Params
import Overseer.Proofs.Json.Records

/-!
# Parameters and log lines read back

* `Params.read_of_writtenAs` : **parameters read back** with all the other parameters that are
  passed on, in whatever order these are written.
* `LogEvent.read_toValue` : a log line reads back.
-/

namespace Overseer.Batch

open Json

theorem integral_optionalMember {α : Type} {f : α → Value} {x : Option α} (key : String)
    (h : ∀ y, x = some y → (f y).integral) : integralMembers (optionalMember key (x.map f)) := by
  cases x with
  | none => rfl
  | some y => simp [optionalMember, integralMembers, h y rfl]

/-! ### Parameters -/

namespace Params

variable {m : Mode} {p : Params}

/-- What the types of the parameters promise: numbers of so many bits, and all others under names
that are not known. -/
structure Valid (p : Params) : Prop where
  concurrency : ∀ n, p.concurrency = some n → Fits 32 n
  retryCount : ∀ n, p.retryCount = some n → Fits 32 n
  delayMin : ∀ n, p.delayMin = some n → Fits 64 n
  delayMax : ∀ n, p.delayMax = some n → Fits 64 n
  /-- The other names are not known. -/
  name : ∀ e ∈ p.extra.entries, ∀ f ∈ fields, e.1 ∉ f.names
  /-- The other values hold integers of 64 bits, and one member per key in order. -/
  value : ∀ e ∈ p.extra.entries, e.2.integral ∧ e.2.ordered

theorem writtenAs_toValue (p : Params) : p.WrittenAs p.toValue := ⟨_, .refl _, rfl⟩

theorem makes_known (valid : p.Valid) :
    shape.Makes empty m
      (optionalMember "concurrency" (p.concurrency.map .nat) ++
        optionalMember "retry_count" (p.retryCount.map .nat) ++
        optionalMember "delay_min_ms" (p.delayMin.map .nat) ++
        optionalMember "delay_max_ms" (p.delayMax.map .nat) ++
        optionalMember "captcha_api_key" (p.captchaKey.map .text) ++
        optionalMember "randomize_order" (p.randomizeOrder.map .bool) ++
        optionalMember "invite_code" (p.inviteCode.map .text)) 7 { p with extra := .empty } := by
  have number {x : Option Nat} {bits : Nat} (hb : bits ≤ 64) (h : ∀ n, x = some n → Fits bits n) :
      ∀ n, x = some n → readNat bits m (Value.nat n).node = .ok n ∧ Value.nat n ≠ .null :=
    fun n hn => ⟨readNat_node (h n hn) hb m, nofun⟩
  have text {x : Option String} :
      ∀ s, x = some s → readText m (Value.text s).node = .ok s ∧ Value.text s ≠ .null :=
    fun s _ => ⟨readText_node m s, nofun⟩
  have flag {x : Option Bool} :
      ∀ b, x = some b → readBool m (Value.bool b).node = .ok b ∧ Value.bool b ≠ .null :=
    fun b _ => ⟨readBool_node m b, nofun⟩
  have start := Shape.makes_nil shape empty m
  have h1 := start.optional "concurrency" rfl rfl (number (by decide) valid.concurrency) rfl
  have h2 := h1.optional "retry_count" rfl rfl (number (by decide) valid.retryCount) rfl
  have h3 := h2.optional "delay_min_ms" rfl rfl (number (by decide) valid.delayMin) rfl
  have h4 := h3.optional "delay_max_ms" rfl rfl (number (by decide) valid.delayMax) rfl
  have h5 := h4.optional "captcha_api_key" rfl rfl (text (x := p.captchaKey)) rfl
  have h6 := h5.optional "randomize_order" rfl rfl (flag (x := p.randomizeOrder)) rfl
  exact h6.optional "invite_code" rfl rfl (text (x := p.inviteCode)) rfl

/-- The other parameters are put into the table in the order in which they are written. -/
theorem makes_extra {members extra : List (String × Value)} {i : Nat}
    (h : shape.Makes empty m members i p) (name : ∀ e ∈ extra, ∀ f ∈ fields, e.1 ∉ f.names)
    (value : ∀ e ∈ extra, readValue m e.2.node = .ok e.2) :
    shape.Makes empty m (members ++ extra) i
      { p with extra := extra.foldl (fun t e => t.insert e.1 e.2) p.extra } := by
  induction extra generalizing members p with
  | nil =>
    rw [List.append_nil]
    exact h
  | cons e rest ih =>
    obtain ⟨hname, names⟩ := List.forall_mem_cons.1 name
    obtain ⟨hvalue, values⟩ := List.forall_mem_cons.1 value
    -- no field has this name, so it falls to the table of the others
    have unknown : shape.fields.findIdx? (fun f => f.names.contains e.1) = none := by
      rw [List.findIdx?_eq_none_iff]
      intro f hf
      rw [Bool.eq_false_iff, ne_eq, List.contains_iff_mem]
      exact hname f hf
    have taken : (readValue m e.2.node).map (fun v => { p with extra := p.extra.insert e.1 v }) =
        .ok { p with extra := p.extra.insert e.1 e.2 } := by
      rw [hvalue]
      rfl
    have one := h.spill e.1 unknown rfl taken
    have all := ih one names values
    rwa [List.append_assoc] at all

/-- **Parameters read back**, whatever the other parameters are and in whatever order they are
written. -/
theorem read_of_writtenAs (valid : p.Valid) {v : Value} (written : p.WrittenAs v)
    (deep : v.depth ≤ m.room) : Params.read m v.node = .ok p := by
  obtain ⟨extra, order, rfl⟩ := written
  have name : ∀ e ∈ extra, ∀ f ∈ fields, e.1 ∉ f.names := fun e he =>
    valid.name e (order.mem_iff.1 he)
  have value : ∀ e ∈ extra, readValue m.inner e.2.node = .ok e.2 := by
    intro e he
    have lt : e.2.depth < (p.toValueIn extra).depth := depth_lt_of_mem (List.mem_append_right _ he)
    obtain ⟨integral, ordered⟩ := valid.value e (order.mem_iff.1 he)
    refine Value.ofNode_node integral ordered ?_
    show e.2.depth ≤ m.room - 1
    omega
  have all := makes_extra (makes_known valid) name value
  have room : m.room ≠ 0 := by
    rw [toValueIn, Value.depth] at deep
    omega
  rw [show extra.foldl _ _ = p.extra from Table.ofList_of_perm order] at all
  exact all.read room

theorem integral_of_writtenAs (valid : p.Valid) {v : Value} (written : p.WrittenAs v) :
    v.integral := by
  obtain ⟨extra, order, rfl⟩ := written
  have bits {x : Option Nat} {key : String} {k : Nat} (hk : k ≤ 64)
      (h : ∀ n, x = some n → Fits k n) : integralMembers (optionalMember key (x.map .nat)) :=
    integral_optionalMember _ fun n hn =>
      integral_nat ((h n hn).mono hk)
  have text {x : Option String} {key : String} :
      integralMembers (optionalMember key (x.map .text)) :=
    integral_optionalMember _ fun _ _ => rfl
  have flag {x : Option Bool} {key : String} :
      integralMembers (optionalMember key (x.map .bool)) :=
    integral_optionalMember _ fun _ _ => rfl
  have others : integralMembers extra :=
    integralMembers_iff.2 fun e he => (valid.value e (order.mem_iff.1 he)).1
  simp only [toValueIn, Value.integral, integralMembers_append, Bool.and_eq_true]
  exact ⟨⟨⟨⟨⟨⟨⟨bits (by decide) valid.concurrency, bits (by decide) valid.retryCount⟩,
    bits (by decide) valid.delayMin⟩, bits (by decide) valid.delayMax⟩, text⟩, flag⟩, text⟩, others⟩

end Params

/-! ### Log lines -/

namespace LogEvent

theorem optionalInt_node {x : Option Int}
    (h : ∀ n, x = some n → Signed n) (m : Mode) :
    readOptional readInt64 m (optionalInt x).node = .ok x := by
  cases x with
  | none => exact readOptional_null readInt64 m
  | some n => exact readOptional_node (readInt64_node (h n rfl) m) nofun

theorem read_toValue {e : LogEvent}
    (valid : ∀ n, e.emittedAt = some n → Signed n) {m : Mode} (room : m.room ≠ 0) :
    LogEvent.read m e.toValue.node = .ok e := by
  have severity : Table.find e.severity.text Severity.names = some e.severity := by
    cases e.severity <;> rfl
  have start := Shape.makes_nil shape ⟨"", "", .info, none⟩ m.inner
  have h1 := start.field "entity_id" rfl rfl (readText_node _ e.account)
  have h2 := h1.field "message" rfl rfl (readText_node _ e.message)
  have h3 := h2.field "severity" rfl rfl (readName_node severity _)
  have h4 := h3.field "emitted_at_ms" rfl rfl (optionalInt_node valid _)
  exact h4.read room

end LogEvent

end Overseer.Batch
