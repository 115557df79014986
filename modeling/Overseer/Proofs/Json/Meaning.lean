import Overseer.Proofs.Json.Documents
import Overseer.Proofs.Table

/-!
# Values read back

A value that is written and read is nested as deeply as before, so it is read wherever there is room
for it.  What is read holds one member per key in ascending order: it is the value itself if that
was so before.

* `Value.exists_ofNode` : a written value is read if there is room for it.
* `Value.ofNode_node` : **an ordered value reads back**.
-/

namespace Overseer.Json

mutual

/-- How deeply arrays and objects are nested in a value. -/
def Value.depth : Value → Nat
  | .array items => depthItems items + 1
  | .object members => depthMembers members + 1
  | _ => 0

/-- How deeply the deepest item is nested. -/
def depthItems : List Value → Nat
  | [] => 0
  | v :: rest => max v.depth (depthItems rest)

/-- How deeply the deepest member is nested. -/
def depthMembers : List (String × Value) → Nat
  | [] => 0
  | m :: rest => max m.2.depth (depthMembers rest)

end

mutual

/-- A value whose objects hold one member per key, in ascending order. -/
def Value.ordered : Value → Bool
  | .array items => orderedItems items
  | .object members => decide (members.Pairwise fun a b => a.1 < b.1) && orderedMembers members
  | _ => true

/-- Items whose objects hold one member per key, in ascending order. -/
def orderedItems : List Value → Bool
  | [] => true
  | v :: rest => v.ordered && orderedItems rest

/-- Members whose objects hold one member per key, in ascending order. -/
def orderedMembers : List (String × Value) → Bool
  | [] => true
  | m :: rest => m.2.ordered && orderedMembers rest

end

theorem depth_le_depthMembers {members : List (String × Value)} {m : String × Value}
    (h : m ∈ members) : m.2.depth ≤ depthMembers members := by
  induction members with
  | nil => exact absurd h List.not_mem_nil
  | cons x rest ih =>
    rw [depthMembers]
    rcases List.mem_cons.1 h with rfl | h
    · exact Nat.le_max_left _ _
    · exact Nat.le_trans (ih h) (Nat.le_max_right _ _)

theorem depth_lt_of_mem {members : List (String × Value)} {m : String × Value}
    (h : m ∈ members) : m.2.depth < (Value.object members).depth := by
  rw [Value.depth]
  exact Nat.lt_succ_of_le (depth_le_depthMembers h)

mutual

/-- A written value is read if there is room for it, and back to itself if it is ordered. -/
theorem Value.exists_ofNode : ∀ (v : Value), v.integral → ∀ room : Nat, v.depth ≤ room →
    ∃ v', Value.ofNode room v.node = .ok v' ∧ (v.ordered → v' = v)
  | .null, _, _, _ => ⟨.null, by rw [Value.node, Value.ofNode], fun _ => rfl⟩
  | .bool b, _, _, _ => ⟨.bool b, by rw [Value.node, Value.ofNode], fun _ => rfl⟩
  | .text s, _, _, _ => ⟨.text s, by rw [Value.node, Value.ofNode], fun _ => rfl⟩
  | .number (.int n), whole, _, _ => by
    have hn : InRange n := by simpa [Value.integral] using whole
    refine ⟨.number (.int n), ?_, fun _ => rfl⟩
    rw [Value.node, Value.ofNode, number?_literal hn]
  | .number (.double _), whole, _, _ => by simp [Value.integral] at whole
  | .array items, whole, room, deep => by
    rw [Value.depth] at deep
    rw [Value.integral] at whole
    obtain ⟨items', eq, same⟩ := exists_ofItems items whole (room - 1) (by omega) []
    refine ⟨.array items', ?_, fun ordered => ?_⟩
    · rw [Value.node, Value.ofNode, if_neg (by omega), eq]
      rfl
    · rw [Value.ordered] at ordered
      rw [same ordered]
  | .object members, whole, room, deep => by
    rw [Value.depth] at deep
    rw [Value.integral] at whole
    obtain ⟨members', eq, same⟩ := exists_ofMembers members whole (room - 1) (by omega) []
    refine ⟨.object members', ?_, fun ordered => ?_⟩
    · rw [Value.node, Value.ofNode, if_neg (by omega), eq]
    · simp only [Value.ordered, Bool.and_eq_true, decide_eq_true_eq] at ordered
      rw [same ordered.2 ordered.1, List.nil_append]

theorem exists_ofItems : ∀ (items : List Value), integralItems items → ∀ room : Nat,
    depthItems items ≤ room → ∀ done : List Value,
    ∃ items', Value.ofItems room (nodes items) done = .ok (.array (done.reverse ++ items')) ∧
      (orderedItems items → items' = items)
  | [], _, _, _, done => ⟨[], by rw [nodes, Value.ofItems, List.append_nil], fun _ => rfl⟩
  | v :: rest, whole, room, deep, done => by
    simp only [integralItems, Bool.and_eq_true] at whole
    rw [depthItems] at deep
    obtain ⟨v', hv, same⟩ := Value.exists_ofNode v whole.1 room (by omega)
    obtain ⟨rest', hrest, others⟩ := exists_ofItems rest whole.2 room (by omega) (v' :: done)
    refine ⟨v' :: rest', ?_, fun ordered => ?_⟩
    · rw [nodes, Value.ofItems, hv]
      simpa using hrest
    · simp only [orderedItems, Bool.and_eq_true] at ordered
      rw [same ordered.1, others ordered.2]

theorem exists_ofMembers : ∀ (members : List (String × Value)), integralMembers members →
    ∀ room : Nat, depthMembers members ≤ room → ∀ done : List (String × Value),
    ∃ members', Value.ofMembers room (memberNodes members) done = .ok (.object members') ∧
      (orderedMembers members → (done ++ members).Pairwise (fun a b => a.1 < b.1) →
        members' = done ++ members)
  | [], _, _, _, done =>
    ⟨done, by rw [memberNodes, Value.ofMembers], fun _ _ => (List.append_nil done).symm⟩
  | m :: rest, whole, room, deep, done => by
    simp only [integralMembers, Bool.and_eq_true] at whole
    rw [depthMembers] at deep
    obtain ⟨v', hv, same⟩ := Value.exists_ofNode m.2 whole.1 room (by omega)
    obtain ⟨rest', hrest, others⟩ := exists_ofMembers rest whole.2 room (by omega)
      (Table.insertEntry m.1 v' done)
    refine ⟨rest', ?_, fun ordered ascending => ?_⟩
    · simp only [memberNodes, Value.ofMembers, hv]
      exact hrest
    · simp only [orderedMembers, Bool.and_eq_true] at ordered
      -- all keys so far are smaller, so the member comes last
      have last : Table.insertEntry m.1 v' done = done ++ [m] := by
        rw [same ordered.1]
        exact Table.insertEntry_of_forall_lt fun e he =>
          (List.pairwise_append.1 ascending).2.2 e he m List.mem_cons_self
      rw [last, List.append_assoc] at others
      exact others ordered.2 ascending

end

/-- **An ordered value reads back** where there is room for it. -/
theorem Value.ofNode_node {v : Value} (whole : v.integral) (ordered : v.ordered) {room : Nat}
    (deep : v.depth ≤ room) : Value.ofNode room v.node = .ok v := by
  obtain ⟨v', eq, same⟩ := v.exists_ofNode whole room deep
  rw [eq, same ordered]

end Overseer.Json
