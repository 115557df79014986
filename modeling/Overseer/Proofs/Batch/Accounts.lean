import Overseer.Batch.Account
import Overseer.Proofs.Decimal.Notation
import Overseer.Proofs.Json.Fields
import Overseer.Proofs.Json.Records
import Overseer.Proofs.Text.Blank

/-!
# Accounts and their records

An account is read from a record that is an object or an array, with the id under one of two keys
and the name under one of two others.  However the record is spelled, the id comes out with content
and without blanks around it, and so the account is a record of itself.

* `Account.says_of_read` : **an account is what its record says**.
* `MeansId.trimmed` : ids have content and no blanks around them.
* `Account.read_toValue` : an account with such an id reads back.
-/

namespace Overseer.Batch

open Json Text Decimal

/-! ### What a record says -/

/-- The keys of an id. -/
def idKeys : List String := ["id", "address"]

/-- The keys of a name. -/
def nameKeys : List String := ["display_name", "name"]

/-- The members with one of the keys. -/
def under (keys : List String) (members : List (Option String × Node)) :
    List (Option String × Node) :=
  members.filter fun x => x.1.any keys.contains

/-- A member that says nothing about an account: its key is none of those of ids and names. -/
def foreign (x : Option String × Node) : Bool :=
  x.1.any fun key => !(idKeys ++ nameKeys).contains key

/-- The id that a node means. -/
inductive MeansId : Node → String → Prop
  | text {s : String} (h : blank s = false) : MeansId (.text (some s)) (trim s)
  | number {l : Literal} {n : Number} (h : l.number? = some n) :
      MeansId (.number l) (idOfNumber n)
  | double {d : Double} (h : d.special = false) : MeansId (.double d) (idOfNumber (.double d))

namespace Account

/-- The nodes of a record with its id, and with its name if it has one. -/
inductive Parts : Node → Node → Option Node → Prop
  | object {members : List (Option String × Node)} {x : Option String × Node} {name : Option Node}
      (hid : under idKeys members = [x])
      (hname : (under nameKeys members).map (·.2) = name.toList) :
      Parts (.object members) x.2 name
  | array (id : Node) (name : Option Node) : Parts (.array (id :: name.toList)) id name

/-- What a record says about an account: its id, and its name if it has one. -/
def Says (n : Node) (a : Account) : Prop :=
  ∃ (id : Node) (name : Option String), Parts n id (name.map fun s => .text (some s)) ∧
    MeansId id a.id ∧ a.name = name.getD ""

end Account

variable {m : Mode} {n : Node} {s : String}

/-! ### Ids -/

theorem idOf?_ofItems {room : Nat} {items : List Node} {done : List Value} {v : Value}
    (h : Value.ofItems room items done = .ok v) : idOf? v = none := by
  induction items generalizing done with
  | nil =>
    rw [Value.ofItems] at h
    obtain rfl := Except.ok.inj h
    rfl
  | cons n rest ih =>
    rw [Value.ofItems] at h
    split at h
    · exact ih h
    · cases h

theorem idOf?_ofMembers {room : Nat} {members : List (Option String × Node)}
    {done : List (String × Value)} {v : Value} (h : Value.ofMembers room members done = .ok v) :
    idOf? v = none := by
  induction members generalizing done with
  | nil =>
    rw [Value.ofMembers] at h
    obtain rfl := Except.ok.inj h
    rfl
  | cons x rest ih =>
    rw [Value.ofMembers] at h
    split at h
    · exact ih h
    · cases h
    · cases h

theorem readId_eq_ok (h : readId m n = .ok s) :
    ∃ v, Value.ofNode m.room n = .ok v ∧ idOf? v = some s := by
  rw [readId] at h
  split at h
  · next v hv =>
    split at h
    · next id hid =>
      obtain rfl := Except.ok.inj h
      exact ⟨v, hv, hid⟩
    · cases h
  · cases h

theorem means_of_readId (h : readId m n = .ok s) : MeansId n s := by
  obtain ⟨v, hv, hs⟩ := readId_eq_ok h
  cases n with
  | null | bool b =>
    rw [Value.ofNode] at hv
    obtain rfl := Except.ok.inj hv
    cases hs
  | number l =>
    rw [Value.ofNode] at hv
    split at hv
    · next n hn =>
      obtain rfl := Except.ok.inj hv
      obtain rfl := Option.some.inj hs
      exact .number hn
    · cases hv
  | double d =>
    rw [Value.ofNode] at hv
    obtain rfl := Except.ok.inj hv
    by_cases hd : d.special = true
    · rw [if_pos hd] at hs
      cases hs
    · rw [if_neg hd] at hs
      obtain rfl := Option.some.inj hs
      exact .double (Bool.eq_false_iff.2 hd)
  | text t =>
    cases t with
    | none =>
      rw [Value.ofNode] at hv
      cases hv
    | some t =>
      rw [Value.ofNode] at hv
      obtain rfl := Except.ok.inj hv
      rw [idOf?] at hs
      split at hs
      · cases hs
      · next ht =>
        obtain rfl := Option.some.inj hs
        exact .text (Bool.eq_false_iff.2 ht)
  | array items =>
    rw [Value.ofNode] at hv
    split at hv
    · cases hv
    · rw [idOf?_ofItems hv] at hs
      cases hs
  | object members =>
    rw [Value.ofNode] at hv
    split at hv
    · cases hv
    · rw [idOf?_ofMembers hv] at hs
      cases hs
  | broken =>
    rw [Value.ofNode] at hv
    cases hv

theorem trimmed_of_numerals (h : Numerals s.toList) : Trimmed s := by
  refine trimmed_of_forall (fun hs => h.1 (by rw [hs]; rfl)) fun c hc => ?_
  obtain ⟨lo, hi⟩ := (h.2 c hc).toNat_le
  rw [Bool.eq_false_iff]
  intro hb
  simp only [isBlank, Bool.or_eq_true, Bool.and_eq_true, decide_eq_true_eq, beq_iff_eq] at hb
  omega

theorem trimmed_idOfNumber (n : Number) : Trimmed (idOfNumber n) := by
  cases n with
  | int n => exact trimmed_of_numerals (numerals_toString n)
  | double d => exact trimmed_of_numerals (numerals_text .plain d)

/-- **An id has content**, and no blanks around it. -/
theorem MeansId.trimmed (h : MeansId n s) : Trimmed s := by
  cases h with
  | text h => exact trimmed_trim h
  | number _ => exact trimmed_idOfNumber _
  | double _ => exact trimmed_idOfNumber _

theorem readId_text (h : Trimmed s) (m : Mode) : readId m (Value.text s).node = .ok s := by
  have hid : idOf? (.text s) = some s := by
    rw [idOf?, h.not_blank, h.trim_eq]
    rfl
  rw [Value.node, readId]
  simp only [readValue, Value.ofNode, hid]

namespace Account

variable {a : Account}

/-! ### Keys -/

theorem position?_eq (key : String) : shape.position? key =
    if idKeys.contains key then some 0 else if nameKeys.contains key then some 1 else none := by
  simp only [Shape.position?, shape, field, List.findIdx?_cons, List.findIdx?_nil]
  by_cases hid : idKeys.contains key = true
  · rw [if_pos hid]
    exact if_pos hid
  · rw [if_neg hid]
    refine (if_neg hid).trans ?_
    by_cases hname : nameKeys.contains key = true
    · rw [if_pos hname]
      exact congrArg (Option.map (· + 1)) (if_pos hname)
    · rw [if_neg hname]
      exact congrArg (Option.map (· + 1)) (if_neg hname)

theorem filter_names_id (members : List (Option String × Node)) :
    members.filter (shape.names 0) = under idKeys members := by
  refine List.filter_congr fun x _ => ?_
  obtain ⟨_ | key, n⟩ := x
  · rfl
  · simp only [Shape.names, position?_eq, Option.any_some]
    split
    · simp_all
    · split <;> simp_all

theorem filter_names_name (members : List (Option String × Node)) :
    members.filter (shape.names 1) = under nameKeys members := by
  have apart : ∀ key, idKeys.contains key = true → nameKeys.contains key = false := by
    intro key hkey
    simp only [idKeys, List.contains_iff_mem, List.mem_cons, List.not_mem_nil, or_false] at hkey
    rcases hkey with rfl | rfl <;> rfl
  refine List.filter_congr fun x _ => ?_
  obtain ⟨_ | key, n⟩ := x
  · rfl
  · simp only [Shape.names, position?_eq, Option.any_some]
    split
    · next hkey =>
      rw [apart key hkey]
      rfl
    · split <;> simp_all

theorem ignores_eq (x : Option String × Node) : shape.ignores x = foreign x := by
  obtain ⟨_ | key, n⟩ := x
  · rfl
  · simp only [Shape.ignores, position?_eq, foreign, Option.any_some, List.contains_eq_mem,
      List.mem_append]
    split
    · simp_all
    · split <;> simp_all

/-! ### Reading -/

theorem apart_id : shape.Apart 0 Account.id := by
  intro j f hf hj m n r r' h
  match j, hj with
  | 1, _ =>
    obtain rfl := Option.some.inj hf
    obtain ⟨v, -, rfl⟩ := Shape.store_eq_ok h
    rfl
  | j + 2, _ => cases hf

theorem apart_name : shape.Apart 1 Account.name := by
  intro j f hf hj m n r r' h
  match j, hj with
  | 0, _ =>
    obtain rfl := Option.some.inj hf
    obtain ⟨v, -, rfl⟩ := Shape.store_eq_ok h
    rfl
  | j + 2, _ => cases hf

theorem says_of_read_object {members : List (Option String × Node)}
    (h : Account.read m (.object members) = .ok a) : Says (.object members) a := by
  simp only [Account.read, Shape.read] at h
  split at h
  · cases h
  split at h
  · next d hd =>
    split at h
    · cases h
    · next hmissing =>
      obtain rfl := Except.ok.inj h
      have hid := Shape.readMembers_field rfl (i := 0) rfl (fun _ _ => rfl) apart_id hd
      have hname := Shape.readMembers_field rfl (i := 1) rfl (fun _ _ => rfl) apart_name hd
      have given : 0 + 0 ∈ d.seen := Shape.mem_of_firstMissing hmissing rfl rfl
      rw [filter_names_id] at hid
      rw [filter_names_name] at hname
      rcases hid with ⟨-, -, hseen⟩ | ⟨-, -, x, hx, hread⟩
      · exact absurd (hseen.1 given) List.not_mem_nil
      rcases hname with ⟨hnone, hdefault, -⟩ | ⟨-, -, y, hy, htext⟩
      · exact ⟨x.2, none, .object hx (by rw [hnone]; rfl), means_of_readId hread, hdefault⟩
      · refine ⟨x.2, some d.record.name, .object hx ?_, means_of_readId hread, rfl⟩
        rw [hy, List.map_singleton, readText_eq_ok htext]
        rfl
  · cases h

theorem says_of_read_array {items : List Node} (hm : m.spareItems = false)
    (h : Account.read m (.array items) = .ok a) : Says (.array items) a := by
  rw [Account.read, Shape.read] at h
  split at h
  · cases h
  split at h
  · cases h
  obtain ⟨d, hd, rfl⟩ := map_eq_ok h
  have strict : m.inner.spareItems = false := hm
  rcases Shape.readItems_eq_ok hd with ⟨-, hrequired, -⟩ | ⟨id, rest, r, rfl, hid, hrest⟩
  · cases hrequired
  obtain ⟨v, hv, rfl⟩ := Shape.store_eq_ok hid
  rcases Shape.readItems_eq_ok hrest with ⟨rfl, -, hend⟩ | ⟨name, rest, r, rfl, hname, hend⟩
  · -- the id alone
    obtain ⟨-, rfl⟩ := Shape.readItems_nil_eq_ok strict hend
    exact ⟨id, none, .array id none, means_of_readId hv, rfl⟩
  · obtain ⟨t, ht, rfl⟩ := Shape.store_eq_ok hname
    obtain ⟨rfl, rfl⟩ := Shape.readItems_nil_eq_ok strict hend
    rw [readText_eq_ok ht]
    exact ⟨id, some t, .array id (some _), means_of_readId hv, rfl⟩

/-- **An account is what its record says.** -/
theorem says_of_read (hm : m.spareItems = false) (h : Account.read m n = .ok a) : Says n a := by
  cases n with
  | object members => exact says_of_read_object h
  | array items => exact says_of_read_array hm h
  | _ => cases h

/-- **An account reads back** if its id has content and no blanks around it. -/
theorem read_toValue (h : Trimmed a.id) (room : m.room ≠ 0) :
    Account.read m a.toValue.node = .ok a := by
  have start := Shape.makes_nil Account.shape ⟨"", ""⟩ m.inner
  have h1 := start.field "id" rfl rfl (readId_text h _)
  have h2 := h1.field "display_name" rfl rfl (readText_node _ a.name)
  exact h2.read room

end Account

end Overseer.Batch
