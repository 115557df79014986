import Mathlib.Data.List.Nodup
import Overseer.Table

/-!
# Lookups in tables

What a lookup finds after each operation on a table.  A table holds one entry per key, so its
entries can be taken one after the other and in any order (`Table.find_tail_of_nodup`,
`Table.find_perm`), inserting them in any order builds it again (`Table.ofList_of_perm`), and two
tables in which every lookup finds the same are the same (`Table.ext_get?`).
-/

namespace Overseer.Table

variable {α β : Type}

theorem find_insertEntry (key k : String) (v : α) (l : List (String × α)) :
    find k (insertEntry key v l) = if key = k then some v else find k l := by
  induction l with
  | nil => rfl
  | cons x rest ih =>
    obtain ⟨k', w⟩ := x
    simp only [insertEntry]
    split
    · rfl
    · split
      · next heq =>
        subst heq
        simp only [find]
        split <;> rfl
      · next hne =>
        simp only [find, ih]
        by_cases hk : k' = k
        · have : key ≠ k := fun h => hne (h.trans hk.symm)
          simp [hk, this]
        · simp [hk]

@[simp] theorem get?_empty (k : String) : (empty : Table α).get? k = none := rfl

theorem get?_insert (t : Table α) (key k : String) (v : α) :
    (t.insert key v).get? k = if key = k then some v else t.get? k :=
  find_insertEntry key k v t.entries

theorem find_map (f : α → β) (k : String) (l : List (String × α)) :
    find k (l.map fun e => (e.1, f e.2)) = (find k l).map f := by
  induction l with
  | nil => rfl
  | cons x rest ih =>
    simp only [List.map_cons, find]
    split
    · rfl
    · exact ih

@[simp] theorem get?_map (f : α → β) (t : Table α) (k : String) :
    (t.map f).get? k = (t.get? k).map f :=
  find_map f k t.entries

theorem find_eq_none {k : String} {l : List (String × α)} (h : ∀ e ∈ l, e.1 ≠ k) :
    find k l = none := by
  induction l with
  | nil => rfl
  | cons x rest ih =>
    rw [find, if_neg (h x List.mem_cons_self)]
    exact ih fun e he => h e (List.mem_cons_of_mem _ he)

theorem find_filter_ne (key k : String) (l : List (String × α)) :
    find k (l.filter fun e => e.1 != key) = if key = k then none else find k l := by
  induction l with
  | nil => simp [find]
  | cons x rest ih =>
    by_cases hx : x.1 = key
    · rw [List.filter_cons_of_neg (by simp [hx]), ih, find]
      by_cases hk : key = k
      · simp [hk]
      · simp [hx, hk]
    · rw [List.filter_cons_of_pos (by simp [hx]), find, ih, find]
      by_cases hk : x.1 = k
      · have : key ≠ k := fun h => hx (hk.trans h.symm)
        simp [hk, this]
      · simp [hk]

theorem get?_erase (t : Table α) (key k : String) :
    (t.erase key).get? k = if key = k then none else t.get? k :=
  find_filter_ne key k t.entries

theorem find_tail_of_nodup {x : String × α} {l : List (String × α)}
    (h : ((x :: l).map (·.1)).Nodup) : find x.1 l = none :=
  find_eq_none fun _ he heq => (List.nodup_cons.1 h).1 (List.mem_map.2 ⟨_, he, heq⟩)

theorem mem_iff_find {l : List (String × α)} (h : (l.map (·.1)).Nodup) {k : String} {v : α} :
    (k, v) ∈ l ↔ find k l = some v := by
  induction l with
  | nil => simp [find]
  | cons x rest ih =>
    have hx := find_tail_of_nodup h
    obtain ⟨k', w⟩ := x
    rw [List.mem_cons, ih (List.nodup_cons.1 h).2, find]
    by_cases hk : k' = k
    · subst hk
      simp [hx, eq_comm]
    · simp [hk, Ne.symm hk]

/-- Where no key comes twice, the order of the entries does not matter. -/
theorem find_perm {l l' : List (String × α)} (hp : l.Perm l') (h : (l.map (·.1)).Nodup)
    (k : String) : find k l = find k l' := by
  have h' : (l'.map (·.1)).Nodup := (hp.map _).nodup_iff.1 h
  refine Option.ext fun v => ?_
  rw [← mem_iff_find h, ← mem_iff_find h', hp.mem_iff]

theorem nodup_keys (t : Table α) : t.keys.Nodup :=
  List.pairwise_map.2 <| t.ordered.imp fun {a b} hlt (heq : a.1 = b.1) =>
    String.lt_irrefl b.1 (heq ▸ hlt)

theorem mem_entries_iff {t : Table α} {k : String} {v : α} :
    (k, v) ∈ t.entries ↔ t.get? k = some v :=
  mem_iff_find t.nodup_keys

theorem insertEntry_of_forall_lt {key : String} {v : α} {l : List (String × α)}
    (h : ∀ e ∈ l, e.1 < key) : insertEntry key v l = l ++ [(key, v)] := by
  induction l with
  | nil => rfl
  | cons x rest ih =>
    obtain ⟨hx, hrest⟩ := List.forall_mem_cons.1 h
    have hlt : ¬key < x.1 := fun hk => String.lt_irrefl _ (String.lt_trans hk hx)
    have hne : key ≠ x.1 := by
      rintro rfl
      exact String.lt_irrefl _ hx
    rw [insertEntry, if_neg hlt, if_neg hne, ih hrest, List.cons_append]

theorem ext_entries {t u : Table α} (h : t.entries = u.entries) : t = u := by
  obtain ⟨l, _⟩ := t
  obtain ⟨l', _⟩ := u
  cases h
  rfl

/-- **Tables in which every lookup finds the same are the same.** -/
theorem ext_get? {t u : Table α} (h : ∀ k, t.get? k = u.get? k) : t = u := by
  have hmem : ∀ e : String × α, e ∈ t.entries ↔ e ∈ u.entries := fun ⟨k, v⟩ => by
    rw [mem_entries_iff, mem_entries_iff, h]
  have hperm : t.entries.Perm u.entries :=
    (List.perm_ext_iff_of_nodup (List.Nodup.of_map _ t.nodup_keys)
      (List.Nodup.of_map _ u.nodup_keys)).2 hmem
  -- both are in ascending order, so that they hold the same entries makes them the same list
  refine ext_entries (hperm.eq_of_pairwise (fun a b _ _ hab hba => ?_) t.ordered u.ordered)
  exact absurd (String.lt_trans hab hba) (String.lt_irrefl _)

/-- Entries that are inserted with no key twice are all found, each in place of what was under its
key. -/
theorem get?_foldl_insert {l : List (String × α)} (h : (l.map (·.1)).Nodup) (t : Table α)
    (k : String) :
    (l.foldl (fun t e => t.insert e.1 e.2) t).get? k = (find k l).or (t.get? k) := by
  induction l generalizing t with
  | nil => rfl
  | cons x rest ih =>
    rw [List.foldl_cons, ih (List.nodup_cons.1 h).2, get?_insert, find]
    by_cases hk : x.1 = k
    · obtain rfl := hk
      rw [find_tail_of_nodup h, if_pos rfl, if_pos rfl]
      rfl
    · rw [if_neg hk, if_neg hk]

/-- **Inserting the entries of a table builds it again**, whatever their order. -/
theorem ofList_of_perm {l : List (String × α)} {t : Table α} (h : l.Perm t.entries) :
    ofList l = t := by
  have nodup : (l.map (·.1)).Nodup := (h.map _).nodup_iff.2 t.nodup_keys
  refine ext_get? fun k => ?_
  rw [ofList, get?_foldl_insert nodup, get?_empty, Option.or_none, find_perm h nodup]
  rfl

/-! ### Keys -/

theorem contains_eq_isSome (t : Table α) (k : String) : t.contains k = (t.get? k).isSome := rfl

theorem mem_keys_iff {t : Table α} {k : String} : k ∈ t.keys ↔ t.contains k = true := by
  rw [keys, List.mem_map, contains_eq_isSome, Option.isSome_iff_exists]
  constructor
  · rintro ⟨⟨_, v⟩, he, rfl⟩
    exact ⟨v, mem_entries_iff.1 he⟩
  · rintro ⟨v, hv⟩
    exact ⟨(k, v), mem_entries_iff.2 hv, rfl⟩

theorem size_erase {t : Table α} {k : String} (h : t.contains k = true) :
    (t.erase k).size + 1 = t.size := by
  have hkeys : (t.erase k).keys = t.keys.erase k := by
    rw [t.nodup_keys.erase_eq_filter, keys, erase, keys, List.filter_map]
    rfl
  have hlen : (t.erase k).keys.length + 1 = t.keys.length := by
    rw [hkeys, List.length_erase_add_one (mem_keys_iff.2 h)]
  simpa [keys, size] using hlen

end Overseer.Table
