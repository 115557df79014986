import Overseer.Proofs.Json.Integers

/-!
# Documents read back

The reader keeps what is open on a stack, so what it makes of a written value is said for every
stack the value may stand on: the value is put there, and the reader goes on behind it.  Only a
number needs to know what comes next.

* `Reader.feed_write` : **a written value is put where it stands**, as `Value.node` has it.
* `read_write` : the text of an object is a whole document, and says that object.
* `printable_write` : no byte of a written value is a control character.
-/

namespace Overseer.Json

/-! ### Values as documents -/

mutual

/-- A value as it is written. -/
def Value.node : Value → Node
  | .null => .null
  | .bool b => .bool b
  | .number (.int n) => .number (literal n)
  | .number (.double d) => .double d
  | .text s => .text (some s)
  | .array items => .array (nodes items)
  | .object members => .object (memberNodes members)

/-- Items as they are written. -/
def nodes : List Value → List Node
  | [] => []
  | v :: rest => v.node :: nodes rest

/-- Members as they are written. -/
def memberNodes : List (String × Value) → List (Option String × Node)
  | [] => []
  | m :: rest => (some m.1, m.2.node) :: memberNodes rest

end

mutual

/-- A value whose numbers are integers of 64 bits, with or without sign. -/
def Value.integral : Value → Bool
  | .number (.int n) => decide (InRange n)
  | .number (.double _) => false
  | .array items => integralItems items
  | .object members => integralMembers members
  | _ => true

/-- Items whose numbers are integers of 64 bits. -/
def integralItems : List Value → Bool
  | [] => true
  | v :: rest => v.integral && integralItems rest

/-- Members whose numbers are integers of 64 bits. -/
def integralMembers : List (String × Value) → Bool
  | [] => true
  | m :: rest => m.2.integral && integralMembers rest

end

theorem integralItems_iff {items : List Value} :
    integralItems items ↔ ∀ v ∈ items, v.integral := by
  induction items with
  | nil => simp [integralItems]
  | cons v rest ih => rw [integralItems, Bool.and_eq_true, ih, List.forall_mem_cons]

theorem integralMembers_iff {members : List (String × Value)} :
    integralMembers members ↔ ∀ m ∈ members, m.2.integral := by
  induction members with
  | nil => simp [integralMembers]
  | cons m rest ih => rw [integralMembers, Bool.and_eq_true, ih, List.forall_mem_cons]

theorem integralMembers_append (a b : List (String × Value)) :
    integralMembers (a ++ b) = (integralMembers a && integralMembers b) := by
  induction a with
  | nil => rfl
  | cons m rest ih => rw [List.cons_append, integralMembers, ih, integralMembers, Bool.and_assoc]

theorem integral_int {n : Int} (h : InRange n) : (Value.int n).integral := by
  rw [Value.int, Value.integral, decide_eq_true h]

theorem integral_nat {n : Nat} (h : Fits 64 n) : (Value.nat n).integral := integral_int h.inRange

/-! ### Reading -/

/-- Bytes that may come behind a written value: after a number, a delimiter must be the first. -/
def Follows (v : Value) (w : List UInt8) : Prop :=
  (∃ b rest, Delimiter b ∧ w = b :: rest) ∨ ∀ n, v ≠ .number n

theorem follows_items (v : Value) (items : List Value) (w : List UInt8) :
    Follows v (writeItems items ++ w) := by
  refine .inl ?_
  cases items with
  | nil => exact ⟨_, _, .inr (.inl rfl), by rw [writeItems]; rfl⟩
  | cons x rest => exact ⟨_, _, .inl rfl, by rw [writeItems]; rfl⟩

theorem follows_members (v : Value) (members : List (String × Value)) (w : List UInt8) :
    Follows v (writeMembers members ++ w) := by
  refine .inl ?_
  cases members with
  | nil => exact ⟨_, _, .inr (.inr rfl), by rw [writeMembers]; rfl⟩
  | cons x rest => exact ⟨_, _, .inl rfl, by rw [writeMembers]; rfl⟩

namespace Reader

theorem feed_null {r : Reader} (h : r.AtValue) :
    r.feed (asciiBytes ['n', 'u', 'l', 'l']) = r.put .null := by
  obtain ⟨stack, phase, root⟩ := r
  rcases h with h | h <;> cases h <;> exact put_phase ⟨stack, _, root⟩ _ _

theorem feed_writeBool (b : Bool) {r : Reader} (h : r.AtValue) :
    r.feed (writeBool b) = r.put (.bool b) := by
  obtain ⟨stack, phase, root⟩ := r
  cases b <;> rcases h with h | h <;> cases h <;> exact put_phase ⟨stack, _, root⟩ _ _

theorem step_openArray {r : Reader} (h : r.AtValue) :
    r.step (ascii '[') = ⟨.array [] :: r.stack, .firstItem, r.root⟩ := by
  obtain ⟨stack, phase, root⟩ := r
  rcases h with h | h <;> cases h <;> rfl

theorem step_openObject {r : Reader} (h : r.AtValue) :
    r.step (ascii '\x7b') = ⟨.object [] :: r.stack, .firstKey, r.root⟩ := by
  obtain ⟨stack, phase, root⟩ := r
  rcases h with h | h <;> cases h <;> rfl

theorem feed_key (key : String) {phase : Phase} {done : List (Option String × Node)}
    {rest : List Frame} {root : Option Node} (h : AtKey ⟨.object done :: rest, phase, root⟩)
    (w : List UInt8) :
    feed ⟨.object done :: rest, phase, root⟩ (writeText key ++ ascii ':' :: w) =
      feed ⟨.member done (some key) :: rest, .value, root⟩ w := by
  rw [feed_append, feed_writeText_key key h]
  rfl

theorem ready_item (done : List Node) (rest : List Frame) (phase : Phase) (root : Option Node) :
    Ready ⟨.array done :: rest, phase, root⟩ := by
  intro ms st h
  cases h

theorem ready_member (done : List (Option String × Node)) (key : Option String)
    (rest : List Frame) (phase : Phase) (root : Option Node) :
    Ready ⟨.member done key :: rest, phase, root⟩ := by
  intro ms st h
  cases h

end Reader

mutual

/-- **A written value is put where it stands**, and the reader goes on behind it. -/
theorem Reader.feed_write : ∀ (v : Value), v.integral → ∀ {r : Reader}, r.AtValue → r.Ready →
    ∀ {w : List UInt8}, Follows v w → r.feed (v.write ++ w) = (r.put v.node).feed w
  | .null, _, r, h, _, w, _ => by
    rw [Value.write, feed_append, feed_null h, Value.node]
  | .bool b, _, r, h, _, w, _ => by
    rw [Value.write, feed_append, feed_writeBool b h, Value.node]
  | .text s, _, r, h, _, w, _ => by
    rw [Value.write, feed_append, feed_writeText s h, Value.node]
  | .number (.int n), _, r, h, ready, w, follows => by
    obtain ⟨b, rest, hb, rfl⟩ | other := follows
    -- the number is complete only once the delimiter is read
    · rw [Value.write, writeNumber, feed_append, Value.node]
      show feed (step _ b) rest = feed (step _ b) rest
      rw [feed_writeInt n hb h ready]
    · exact absurd rfl (other (.int n))
  | .number (.double _), whole, _, _, _, _, _ => by simp [Value.integral] at whole
  | .array [], _, r, h, _, w, _ => by
    rw [Value.write, feed_append, Value.node, nodes]
    show feed (step (step r _) _) w = _
    rw [step_openArray h]
    exact congrArg (feed · w) (put_phase r _ _)
  | .array (v :: rest), whole, r, h, _, w, _ => by
    simp only [Value.integral, integralItems, Bool.and_eq_true] at whole
    -- the first item stands behind the bracket, the others behind a comma each
    have first := feed_write v whole.1 (.inr rfl) (ready_item [] r.stack .firstItem r.root)
      (follows_items v rest w)
    have others := feed_writeItems rest whole.2 [v.node] r.stack r.root w
    rw [Value.write, Value.node, nodes, List.cons_append, List.append_assoc]
    show feed (step r _) _ = _
    rw [step_openArray h, first, ← put_phase r .after]
    exact others
  | .object [], _, r, h, _, w, _ => by
    rw [Value.write, feed_append, Value.node, memberNodes]
    show feed (step (step r _) _) w = _
    rw [step_openObject h]
    exact congrArg (feed · w) (put_phase r _ _)
  | .object (m :: rest), whole, r, h, _, w, _ => by
    simp only [Value.integral, integralMembers, Bool.and_eq_true] at whole
    have first := feed_write m.2 whole.1 (.inl rfl)
      (ready_member [] (some m.1) r.stack .value r.root) (follows_members m.2 rest w)
    have others := feed_writeMembers rest whole.2 [(some m.1, m.2.node)] r.stack r.root w
    rw [Value.write, Value.node, memberNodes]
    simp only [List.cons_append, List.append_assoc]
    show feed (step r _) _ = _
    rw [step_openObject h, feed_key m.1 (.inr rfl), first, ← put_phase r .after]
    exact others

theorem Reader.feed_writeItems : ∀ (items : List Value), integralItems items →
    ∀ (done : List Node) (rest : List Frame) (root : Option Node) (w : List UInt8),
    feed ⟨.array done :: rest, .after, root⟩ (writeItems items ++ w) =
      (put ⟨rest, .after, root⟩ (.array (done.reverse ++ nodes items))).feed w
  | [], _, done, rest, root, w => by
    rw [writeItems, nodes, List.append_nil]
    rfl
  | v :: items, whole, done, rest, root, w => by
    simp only [integralItems, Bool.and_eq_true] at whole
    have first := feed_write v whole.1 (.inl rfl) (ready_item done rest .value root)
      (follows_items v items w)
    have others := feed_writeItems items whole.2 (v.node :: done) rest root w
    rw [writeItems, nodes, List.cons_append, List.append_assoc]
    show feed ⟨.array done :: rest, .value, root⟩ _ = _
    rw [List.reverse_cons, List.append_assoc] at others
    rw [first]
    exact others

theorem Reader.feed_writeMembers : ∀ (members : List (String × Value)), integralMembers members →
    ∀ (done : List (Option String × Node)) (rest : List Frame) (root : Option Node)
      (w : List UInt8),
    feed ⟨.object done :: rest, .after, root⟩ (writeMembers members ++ w) =
      (put ⟨rest, .after, root⟩ (.object (done.reverse ++ memberNodes members))).feed w
  | [], _, done, rest, root, w => by
    rw [writeMembers, memberNodes, List.append_nil]
    rfl
  | m :: members, whole, done, rest, root, w => by
    simp only [integralMembers, Bool.and_eq_true] at whole
    have first := feed_write m.2 whole.1 (.inl rfl) (ready_member done (some m.1) rest .value root)
      (follows_members m.2 members w)
    have others := feed_writeMembers members whole.2 ((some m.1, m.2.node) :: done) rest root w
    rw [writeMembers, memberNodes]
    simp only [List.cons_append, List.append_assoc]
    show feed ⟨.object done :: rest, .key, root⟩ _ = _
    rw [List.reverse_cons, List.append_assoc] at others
    rw [feed_key m.1 (.inl rfl), first]
    exact others

end

/-- **The text of a value is a whole document**, and says that value.  A number alone would need a
byte behind it. -/
theorem read_write_of_ne_number {v : Value} (hv : ∀ n, v ≠ .number n) (h : v.integral) :
    Json.read v.write = ⟨v.node, true⟩ := by
  have ready : Reader.start.Ready := by
    intro ms rest hs
    cases hs
  have := Reader.feed_write v h (.inl rfl) ready (w := []) (.inr hv)
  rw [List.append_nil] at this
  rw [Json.read, this]
  rfl

/-- **The text of an object is a whole document**, and says that object. -/
theorem read_write {members : List (String × Value)} (h : (Value.object members).integral) :
    Json.read (Value.object members).write = ⟨(Value.object members).node, true⟩ :=
  read_write_of_ne_number nofun h

/-! ### No control characters -/

theorem printable_writeBool (b : Bool) : Printable (writeBool b) := by
  cases b <;> decide

mutual

theorem printable_write : ∀ (v : Value), v.integral → Printable v.write
  | .null, _ => by
    rw [Value.write]
    decide
  | .bool b, _ => by
    rw [Value.write]
    exact printable_writeBool b
  | .text s, _ => by
    rw [Value.write]
    exact printable_writeText s
  | .number (.int n), _ => by
    rw [Value.write]
    exact printable_writeInt n
  | .number (.double _), whole => by simp [Value.integral] at whole
  | .array [], _ => by
    rw [Value.write]
    decide
  | .array (v :: rest), whole => by
    simp only [Value.integral, integralItems, Bool.and_eq_true] at whole
    rw [Value.write]
    exact ((printable_write v whole.1).append (printable_writeItems rest whole.2)).cons (by decide)
  | .object [], _ => by
    rw [Value.write]
    decide
  | .object (m :: rest), whole => by
    simp only [Value.integral, integralMembers, Bool.and_eq_true] at whole
    have member := (printable_write m.2 whole.1).append (printable_writeMembers rest whole.2)
    rw [Value.write]
    exact ((printable_writeText m.1).append (member.cons (by decide))).cons (by decide)

theorem printable_writeItems : ∀ (items : List Value), integralItems items →
    Printable (writeItems items)
  | [], _ => by
    rw [writeItems]
    decide
  | v :: rest, whole => by
    simp only [integralItems, Bool.and_eq_true] at whole
    rw [writeItems]
    exact ((printable_write v whole.1).append (printable_writeItems rest whole.2)).cons (by decide)

theorem printable_writeMembers : ∀ (members : List (String × Value)), integralMembers members →
    Printable (writeMembers members)
  | [], _ => by
    rw [writeMembers]
    decide
  | m :: rest, whole => by
    simp only [integralMembers, Bool.and_eq_true] at whole
    have member := (printable_write m.2 whole.1).append (printable_writeMembers rest whole.2)
    rw [writeMembers]
    exact ((printable_writeText m.1).append (member.cons (by decide))).cons (by decide)

end

end Overseer.Json
