import Overseer.Proofs.Json.Meaning
import Overseer.Batch.Progress

/-!
# Records read back

A record is read member by member, and what is known of it in the middle is a draft.  So a record
that is written as an object is followed through its members: `Shape.Makes` says how far the reader
is, and there is one step for each way in which a member can be written.

* `readNat_node`, `readText_node`, `readOptional_node`, `readList_node`, `readTable_node` and their
  like : what is written for a field is what is read for it.
* `Shape.Makes.field`, `Shape.Makes.optional`, `Shape.Makes.spill` : the steps.
* `Shape.Makes.read` : **a record reads back** once all its fields are done with.
-/

namespace Overseer.Json

open Overseer.Batch

variable {α β : Type}

theorem memberNodes_append (a b : List (String × Value)) :
    memberNodes (a ++ b) = memberNodes a ++ memberNodes b := by
  induction a with
  | nil => rfl
  | cons m rest ih => rw [List.cons_append, memberNodes, memberNodes, ih, List.cons_append]

/-! ### Plain values -/

theorem readText_node (m : Mode) (s : String) : readText m (Value.text s).node = .ok s := by
  rw [Value.node, readText]

theorem readBool_node (m : Mode) (b : Bool) : readBool m (Value.bool b).node = .ok b := by
  rw [Value.node, readBool]

theorem readInt_node {least largest n : Int} (h : InRange n) (lo : least ≤ n) (hi : n ≤ largest)
    (m : Mode) : readInt least largest m (Value.int n).node = .ok n := by
  rw [Value.int, Value.node, readInt]
  simp only [number?_literal h, if_pos (And.intro lo hi)]

theorem readInt64_node {n : Int} (h : Signed n) (m : Mode) :
    readInt64 m (Value.int n).node = .ok n := by
  refine readInt_node h.inRange h.1 ?_ m
  have := h.2
  rw [pow_63] at this ⊢
  omega

theorem readNat_node {bits n : Nat} (h : Fits bits n) (hb : bits ≤ 64) (m : Mode) :
    readNat bits m (Value.nat n).node = .ok n := by
  have hi : (n : Int) ≤ ((Nat.pow 2 bits - 1 : Nat) : Int) :=
    Int.ofNat_le.2 (Nat.le_sub_one_of_lt h)
  have := readInt_node (h.mono hb).inRange (Int.natCast_nonneg n) hi m
  rw [readNat]
  exact congrArg (Except.map Int.toNat) this

theorem readName_node {names : List (String × β)} {name : String} {x : β}
    (h : Table.find name names = some x) (m : Mode) :
    readName names m (Value.text name).node = .ok x := by
  rw [Value.node, readName]
  simp only [h]

theorem readOptional_node {read : Decoder β} {m : Mode} {v : Value} {x : β}
    (h : read m v.node = .ok x) (hv : v ≠ .null) : readOptional read m v.node = .ok (some x) := by
  have hn : v.node ≠ .null := by
    fun_cases Value.node v <;> simp_all
  rw [readOptional.eq_2 _ _ _ hn, h]
  rfl

theorem readOptional_null (read : Decoder β) (m : Mode) :
    readOptional read m Value.null.node = .ok none := by
  rw [Value.node, readOptional]

theorem readEach_nodes {read : Decoder β} {f : β → Value} {m : Mode} {xs : List β}
    (h : ∀ x ∈ xs, read m (f x).node = .ok x) (done : List β) :
    readEach read m (nodes (xs.map f)) done = .ok (done.reverse ++ xs) := by
  induction xs generalizing done with
  | nil => rw [List.map_nil, nodes, readEach, List.append_nil]
  | cons x xs ih =>
    obtain ⟨hx, hxs⟩ := List.forall_mem_cons.1 h
    rw [List.map_cons, nodes, readEach, hx]
    simpa using ih hxs (x :: done)

theorem readList_node {read : Decoder β} {f : β → Value} {m : Mode} {xs : List β}
    (h : ∀ x ∈ xs, read m.inner (f x).node = .ok x) (room : m.room ≠ 0) :
    readList read m (Value.array (xs.map f)).node = .ok xs := by
  rw [Value.node, readList]
  simp only [if_neg room]
  exact readEach_nodes h []

theorem readEntries_memberNodes {read : Decoder β} {f : β → Value} {m : Mode}
    {l : List (String × β)} (h : ∀ e ∈ l, read m (f e.2).node = .ok e.2) (t : Table β) :
    readEntries read m (memberNodes (l.map fun e => (e.1, f e.2))) t =
      .ok (l.foldl (fun t e => t.insert e.1 e.2) t) := by
  induction l generalizing t with
  | nil => rfl
  | cons e rest ih =>
    obtain ⟨he, hrest⟩ := List.forall_mem_cons.1 h
    simp only [List.map_cons, memberNodes, readEntries, he]
    exact ih hrest _

/-- A table reads back, in whatever order its entries are written. -/
theorem readTable_node {read : Decoder β} {f : β → Value} {m : Mode} {t : Table β}
    {l : List (String × β)} (order : l.Perm t.entries)
    (h : ∀ e ∈ t.entries, read m.inner (f e.2).node = .ok e.2) (room : m.room ≠ 0) :
    readTable read m (Value.object (l.map fun e => (e.1, f e.2))).node = .ok t := by
  have each : ∀ e ∈ l, read m.inner (f e.2).node = .ok e.2 := fun e he => h e (order.mem_iff.1 he)
  rw [Value.node, readTable]
  simp only [if_neg room]
  rw [readEntries_memberNodes each, ← Table.ofList, Table.ofList_of_perm order]

/-! ### Records -/

theorem firstMissing_eq_none {seen : List Nat} {fields : List (Field α)} {i : Nat}
    (h : ∀ j f, fields[j]? = some f → f.required → i + j ∈ seen) :
    firstMissing seen fields i = none := by
  induction fields generalizing i with
  | nil => rfl
  | cons f fs ih =>
    have now : (f.required && !seen.contains i) = false := by
      cases hf : f.required
      · rfl
      · simpa using h 0 f rfl hf
    rw [firstMissing, now]
    refine ih fun j f hj hf => ?_
    have := h (j + 1) f hj hf
    rwa [Nat.add_comm j 1, ← Nat.add_assoc] at this

/-- Reading the members from the start makes the record `r`.  The fields before position `i` are
done with: those that have to be given were given, and no field from there on was. -/
def Shape.Makes (s : Shape α) (defaults : α) (m : Mode) (members : List (String × Value)) (i : Nat)
    (r : α) : Prop :=
  ∃ seen, (∀ j ∈ seen, j < i) ∧ (∀ j < i, ∀ f, s.fields[j]? = some f → f.required → j ∈ seen) ∧
    ∀ rest, s.readMembers m (memberNodes members ++ rest) ⟨[], defaults⟩ =
      s.readMembers m rest ⟨seen, r⟩

namespace Shape

variable {s : Shape α} {defaults r : α} {m : Mode} {members : List (String × Value)} {i : Nat}

theorem makes_nil (s : Shape α) (defaults : α) (m : Mode) : s.Makes defaults m [] 0 defaults :=
  ⟨[], by simp, by simp, fun _ => rfl⟩

theorem Makes.field {names : List String} {required : Bool} {read : Decoder β}
    {set : β → α → α} {v : Value} {x : β} (h : s.Makes defaults m members i r) (key : String)
    (found : s.fields.findIdx? (fun f => f.names.contains key) = some i)
    (here : s.fields[i]? = some (Json.field names required read set))
    (given : read m v.node = .ok x) :
    s.Makes defaults m (members ++ [(key, v)]) (i + 1) (set x r) := by
  obtain ⟨seen, below, done, eq⟩ := h
  -- all fields that were given stand before this one, so it is not given twice
  have fresh : seen.contains i = false := by
    rw [Bool.eq_false_iff, ne_eq, List.contains_iff_mem]
    exact fun hi => Nat.lt_irrefl _ (below i hi)
  have stored : (Json.field names required read set).store m v.node r = .ok (set x r) := by
    show Except.map _ (read m v.node) = _
    rw [given]
    rfl
  refine ⟨i :: seen, ?_, fun j hj f hf hr => ?_, fun rest => ?_⟩
  · exact List.forall_mem_cons.2
      ⟨Nat.lt_succ_self i, fun j hj => Nat.lt_succ_of_lt (below j hj)⟩
  · rcases Nat.lt_succ_iff_lt_or_eq.1 hj with hj | rfl
    · exact List.mem_cons_of_mem _ (done j hj f hf hr)
    · exact List.mem_cons_self
  · rw [memberNodes_append, List.append_assoc, eq]
    simp only [memberNodes, List.singleton_append, readMembers, readMember, found, here,
      Draft.store, fresh, stored, Bool.false_eq_true, if_false]

theorem Makes.optional {names : List String} {read : Decoder β} {set : Option β → α → α}
    {f : β → Value} {x : Option β} (h : s.Makes defaults m members i r) (key : String)
    (found : s.fields.findIdx? (fun f => f.names.contains key) = some i)
    (here : s.fields[i]? = some (Json.field names false (readOptional read) set))
    (given : ∀ y, x = some y → read m (f y).node = .ok y ∧ f y ≠ .null)
    (left : set none r = r) :
    s.Makes defaults m (members ++ optionalMember key (x.map f)) (i + 1) (set x r) := by
  cases x with
  | some y =>
    obtain ⟨hy, ne⟩ := given y rfl
    exact h.field key found here (readOptional_node hy ne)
  | none =>
    obtain ⟨seen, below, done, eq⟩ := h
    refine ⟨seen, fun j hj => Nat.lt_succ_of_lt (below j hj), fun j hj g hg hr => ?_,
      fun rest => ?_⟩
    · rcases Nat.lt_succ_iff_lt_or_eq.1 hj with hj | rfl
      · exact done j hj g hg hr
      -- the field that is left out need not be given
      · rw [here] at hg
        cases hg
        exact absurd hr Bool.false_ne_true
    · rw [Option.map_none, optionalMember, List.append_nil, eq, left]

/-- A member that is no field is taken by `other`. -/
theorem Makes.spill {v : Value} {other : Mode → String → Node → α → Result α} {r' : α}
    (h : s.Makes defaults m members i r) (key : String)
    (unknown : s.fields.findIdx? (fun f => f.names.contains key) = none)
    (rest : s.other = some other) (taken : other m key v.node r = .ok r') :
    s.Makes defaults m (members ++ [(key, v)]) i r' := by
  obtain ⟨seen, below, done, eq⟩ := h
  refine ⟨seen, below, done, fun others => ?_⟩
  rw [memberNodes_append, List.append_assoc, eq]
  simp only [memberNodes, List.singleton_append, readMembers, readMember, unknown, rest, taken]

/-- **A record reads back** once all its fields are done with. -/
theorem Makes.read (h : s.Makes defaults m.inner members s.fields.length r) (room : m.room ≠ 0) :
    s.read defaults m (Value.object members).node = .ok r := by
  obtain ⟨seen, -, done, eq⟩ := h
  -- every field is done with, so none that has to be given is missing
  have complete : firstMissing seen s.fields 0 = none := by
    refine firstMissing_eq_none fun j f hj hf => ?_
    rw [Nat.zero_add]
    exact done j (List.getElem?_eq_some_iff.1 hj).1 f hj hf
  have all := eq []
  rw [List.append_nil, readMembers] at all
  rw [Value.node, Shape.read]
  simp only [if_neg room, all, complete]

end Shape

end Overseer.Json
