import Mathlib.Data.List.Forall2
import Overseer.Json.Record

/-!
# What a record takes from its members

A record without a place for other members passes them over, so two objects that differ in these
alone make the same record.  What it does take, a field takes from one member: the only one whose
key names it.

* `Shape.readMembers_filter` : members whose keys name no field are passed over.
* `Shape.read_object_congr` : **what is passed over makes no difference**, neither to the record nor
  to the error.
* `Shape.readMembers_field` : **a field is taken from the only member that names it**, or left as it
  was.
-/

namespace Overseer.Json

variable {α β : Type} {m : Mode}

theorem map_eq_ok {ε : Type} {f : α → β} {x : Except ε α} {v : β} (h : x.map f = .ok v) :
    ∃ w, x = .ok w ∧ f w = v := by
  cases x with
  | ok w => exact ⟨w, rfl, Except.ok.inj h⟩
  | error e => cases h

theorem mapError_eq_ok {ε ε' : Type} {f : ε → ε'} {x : Except ε α} {v : α}
    (h : x.mapError f = .ok v) : x = .ok v := by
  cases x with
  | ok w => exact congrArg Except.ok (Except.ok.inj h)
  | error e => cases h

namespace Shape

/-- The position of the field that a key names. -/
def position? (s : Shape α) (key : String) : Option Nat :=
  s.fields.findIdx? fun f => f.names.contains key

/-- A member whose key names no field.  A key that is no text is none of these. -/
def ignores (s : Shape α) (x : Option String × Node) : Bool :=
  match x.1 with
  | some key => (s.position? key).isNone
  | none => false

/-- A member whose key names the field at a position. -/
def names (s : Shape α) (i : Nat) (x : Option String × Node) : Bool :=
  match x.1 with
  | some key => s.position? key == some i
  | none => false

variable {s : Shape α} {d d' : Draft α} {i : Nat} {x : Option String × Node}
  {members : List (Option String × Node)}

/-! ### Members that are passed over -/

theorem readMember_of_ignores (hs : s.other = none) (hx : s.ignores x = true)
    (sound : x.2.sound = true) : s.readMember m d x.1 x.2 = .ok d := by
  obtain ⟨key, n⟩ := x
  cases key with
  | none => cases hx
  | some key =>
    have hkey : s.fields.findIdx? (fun f => f.names.contains key) = none :=
      Option.isNone_iff_eq_none.1 hx
    have sound : n.sound = true := sound
    simp only [readMember, hkey, hs, sound, if_true]

/-- **Members whose keys name no field are passed over.** -/
theorem readMembers_filter (hs : s.other = none) (sound : ∀ x ∈ members, x.2.sound = true)
    (d : Draft α) :
    s.readMembers m (members.filter fun x => !s.ignores x) d = s.readMembers m members d := by
  induction members generalizing d with
  | nil => rfl
  | cons x rest ih =>
    obtain ⟨hx, hrest⟩ := List.forall_mem_cons.1 sound
    rw [readMembers]
    by_cases hi : s.ignores x = true
    · rw [List.filter_cons_of_neg (by simp [hi]), readMember_of_ignores hs hi hx]
      exact ih hrest d
    · rw [List.filter_cons_of_pos (by simp [hi]), readMembers]
      split
      · exact ih hrest _
      · rfl

/-- **What is passed over makes no difference**, neither to the record nor to the error. -/
theorem read_object_congr (hs : s.other = none) {a b : List (Option String × Node)}
    (ha : ∀ x ∈ a, x.2.sound = true) (hb : ∀ x ∈ b, x.2.sound = true)
    (same : (a.filter fun x => !s.ignores x) = b.filter fun x => !s.ignores x) (defaults : α) :
    s.read defaults m (.object a) = s.read defaults m (.object b) := by
  have hmembers : ∀ d, s.readMembers m.inner a d = s.readMembers m.inner b d := fun d => by
    rw [← readMembers_filter hs ha, same, readMembers_filter hs hb]
  simp only [Shape.read, hmembers]

/-! ### Fields -/

theorem store_draft_eq_ok {f : Field α} {n : Node} (h : d.store m i f n = .ok d') :
    i ∉ d.seen ∧ ∃ r, f.store m n d.record = .ok r ∧ d' = ⟨i :: d.seen, r⟩ := by
  rw [Draft.store] at h
  split at h
  · cases h
  · next hseen =>
    split at h
    · next r hr => exact ⟨by simpa using hseen, r, hr, (Except.ok.inj h).symm⟩
    · cases h

/-- A member that is read is passed over or stored in a field that was not given before. -/
theorem readMember_eq_ok (hs : s.other = none) {key : Option String} {n : Node}
    (h : s.readMember m d key n = .ok d') :
    ∃ k, key = some k ∧ ((s.position? k = none ∧ d' = d) ∨
      ∃ j f r, s.position? k = some j ∧ s.fields[j]? = some f ∧ j ∉ d.seen ∧
        f.store m n d.record = .ok r ∧ d' = ⟨j :: d.seen, r⟩) := by
  cases key with
  | none => cases h
  | some k =>
    refine ⟨k, rfl, ?_⟩
    simp only [readMember, hs] at h
    split at h
    · next j hj =>
      obtain ⟨hlt, -⟩ := List.findIdx?_eq_some_iff_findIdx_eq.1 hj
      rw [List.getElem?_eq_getElem hlt] at h
      obtain ⟨hseen, r, hr, rfl⟩ := store_draft_eq_ok h
      exact .inr ⟨j, _, r, hj, List.getElem?_eq_getElem hlt, hseen, hr, rfl⟩
    · next hj =>
      split at h
      · exact .inl ⟨hj, (Except.ok.inj h).symm⟩
      · cases h

/-- Storing any other field leaves what the field at position `i` holds. -/
def Apart (s : Shape α) (i : Nat) (get : α → β) : Prop :=
  ∀ j f, s.fields[j]? = some f → j ≠ i → ∀ m n r r', f.store m n r = .ok r' → get r' = get r

variable {names : List String} {required : Bool} {read : Decoder β} {set : β → α → α}
  {get : α → β}

theorem store_eq_ok {n : Node} {r r' : α}
    (h : (field names required read set).store m n r = .ok r') :
    ∃ v, read m n = .ok v ∧ set v r = r' := map_eq_ok h

/-- **A field is taken from the only member that names it**, or it stays as it was. -/
theorem readMembers_field (hs : s.other = none)
    (hi : s.fields[i]? = some (field names required read set)) (hset : ∀ v r, get (set v r) = v)
    (hapart : s.Apart i get) (h : s.readMembers m members d = .ok d') :
    (members.filter (s.names i) = [] ∧ get d'.record = get d.record ∧ (i ∈ d'.seen ↔ i ∈ d.seen)) ∨
      (i ∉ d.seen ∧ i ∈ d'.seen ∧
        ∃ x, members.filter (s.names i) = [x] ∧ read m x.2 = .ok (get d'.record)) := by
  induction members generalizing d with
  | nil =>
    obtain rfl := Except.ok.inj h
    exact .inl ⟨rfl, rfl, .rfl⟩
  | cons x rest ih =>
    obtain ⟨key, n⟩ := x
    rw [readMembers] at h
    split at h
    · next d₁ hmember =>
      obtain ⟨k, rfl, ⟨hk, rfl⟩ | ⟨j, f, r, hk, hj, hseen, hstore, rfl⟩⟩ :=
        readMember_eq_ok hs hmember
      · -- the member is passed over
        rw [List.filter_cons_of_neg (by simp [Shape.names, hk])]
        exact ih h
      · by_cases hji : j = i
        · -- the member is stored in the field, so no other one may be
          subst hji
          obtain rfl := Option.some.inj (hj.symm.trans hi)
          obtain ⟨v, hv, rfl⟩ := store_eq_ok hstore
          rw [List.filter_cons_of_pos (by simp [Shape.names, hk])]
          rcases ih h with ⟨hnone, hget, hmem⟩ | ⟨hagain, -⟩
          · refine .inr ⟨hseen, hmem.2 List.mem_cons_self, _, by rw [hnone], ?_⟩
            rw [hget, hset]
            exact hv
          · exact absurd List.mem_cons_self hagain
        · -- the member is stored in another field
          have hget : get r = get d.record := hapart j f hj hji _ _ _ _ hstore
          have hmem : i ∈ j :: d.seen ↔ i ∈ d.seen := by simp [Ne.symm hji]
          rw [List.filter_cons_of_neg (by simp [Shape.names, hk, hji])]
          simpa only [hget, hmem] using ih h
    · cases h

theorem mem_of_firstMissing {seen : List Nat} {fields : List (Field α)} {j k : Nat} {f : Field α}
    (h : firstMissing seen fields j = none) (hk : fields[k]? = some f) (hf : f.required = true) :
    j + k ∈ seen := by
  induction fields generalizing j k with
  | nil => cases hk
  | cons g rest ih =>
    rw [firstMissing] at h
    split at h
    · cases h
    · next hg =>
      cases k with
      | zero =>
        obtain rfl := Option.some.inj hk
        simpa [hf] using hg
      | succ k =>
        have := ih h hk
        rwa [Nat.add_assoc, Nat.add_comm 1 k] at this

/-! ### Items -/

/-- An item goes to the next field, and where there is none the field has a default. -/
theorem readItems_eq_ok {f : Field α} {fs : List (Field α)} {items : List Node}
    (h : readItems m (f :: fs) i items d = .ok d') :
    (items = [] ∧ f.required = false ∧ readItems m fs (i + 1) [] d = .ok d') ∨
      ∃ n rest r, items = n :: rest ∧ f.store m n d.record = .ok r ∧
        readItems m fs (i + 1) rest ⟨i :: d.seen, r⟩ = .ok d' := by
  cases items with
  | nil =>
    rw [readItems] at h
    split at h
    · cases h
    · next hf => exact .inl ⟨rfl, by simpa using hf, h⟩
  | cons n rest =>
    rw [readItems] at h
    split at h
    · next d₁ hd =>
      obtain ⟨-, r, hr, rfl⟩ := store_draft_eq_ok hd
      exact .inr ⟨n, rest, r, rfl, hr, h⟩
    · cases h

theorem readItems_nil_eq_ok {items : List Node} (hm : m.spareItems = false)
    (h : readItems m ([] : List (Field α)) i items d = .ok d') : items = [] ∧ d' = d := by
  cases items with
  | nil => exact ⟨rfl, (Except.ok.inj h).symm⟩
  | cons n rest =>
    rw [readItems, hm] at h
    cases h

end Shape

/-! ### Texts, lists and documents -/

theorem readText_eq_ok {n : Node} {t : String} (h : readText m n = .ok t) :
    n = .text (some t) := by
  rw [readText.eq_def] at h
  split at h
  · obtain rfl := Except.ok.inj h
    rfl
  all_goals cases h

theorem readList_eq_ok {read : Decoder β} {n : Node} {vs : List β}
    (h : readList read m n = .ok vs) :
    ∃ items, n = .array items ∧ readEach read m.inner items [] = .ok vs := by
  rw [readList.eq_def] at h
  split at h
  · next items =>
    split at h
    · cases h
    · exact ⟨items, rfl, h⟩
  all_goals cases h

theorem readDocument_eq_ok {read : Decoder β} {bs : List UInt8} {v : β}
    (h : read.readDocument bs = .ok v) :
    ∃ n, Json.read bs = ⟨n, true⟩ ∧ read .direct n = .ok v := by
  simp only [Decoder.readDocument] at h
  split at h
  · next w hw =>
    split at h
    · next hc =>
      obtain rfl := Except.ok.inj h
      exact ⟨_, by rw [← hc], hw⟩
    · cases h
  · cases h

theorem readEach_congr {read : Decoder β} {xs ys : List Node}
    (h : List.Forall₂ (fun x y => read m x = read m y) xs ys) (done : List β) :
    readEach read m xs done = readEach read m ys done := by
  induction h generalizing done with
  | nil => rfl
  | cons hxy _ ih =>
    rw [readEach, readEach, hxy]
    split
    · exact ih _
    · rfl

theorem readEach_eq_ok {read : Decoder β} {xs : List Node} {done vs : List β}
    (h : readEach read m xs done = .ok vs) :
    ∃ more, vs = done.reverse ++ more ∧ List.Forall₂ (fun x v => read m x = .ok v) xs more := by
  induction xs generalizing done with
  | nil =>
    obtain rfl := Except.ok.inj h
    exact ⟨[], (List.append_nil _).symm, .nil⟩
  | cons x rest ih =>
    rw [readEach] at h
    split at h
    · next v hv =>
      obtain ⟨more, rfl, hmore⟩ := ih h
      exact ⟨v :: more, by simp, .cons hv hmore⟩
    · cases h

end Overseer.Json
