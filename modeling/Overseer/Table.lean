/-!
# Tables

Finite maps from text to values, kept as a list in strictly ascending order of keys, so two tables
with the same content are equal. `insert` keeps that order, with one entry for each key.
-/

namespace Overseer

/-- A finite map from text to `α`. -/
structure Table (α : Type) where
  /-- The entries, in ascending order of keys. -/
  entries : List (String × α)
  /-- Every key is smaller than those after it. -/
  ordered : entries.Pairwise fun a b => a.1 < b.1

namespace Table

variable {α β : Type}

/-- The value that a list of entries holds under a key: that of the first entry with it. -/
def find (key : String) : List (String × α) → Option α
  | [] => none
  | (k, v) :: rest => if k = key then some v else find key rest

/-- Puts `v` under `key` into an ascending list of entries, in place of what was there. -/
def insertEntry (key : String) (v : α) : List (String × α) → List (String × α)
  | [] => [(key, v)]
  | (k, w) :: rest =>
    if key < k then (key, v) :: (k, w) :: rest
    else if key = k then (key, v) :: rest
    else (k, w) :: insertEntry key v rest

theorem lt_of_not_lt_of_ne {a b : String} (h : ¬a < b) (hne : a ≠ b) : b < a :=
  Decidable.byContradiction fun h' =>
    hne (String.le_antisymm (String.not_lt.1 h') (String.not_lt.1 h))

theorem eq_or_mem_of_mem_insertEntry {key : String} {v : α} {l : List (String × α)}
    {e : String × α} (h : e ∈ insertEntry key v l) : e = (key, v) ∨ e ∈ l := by
  induction l with
  | nil => exact .inl (by simpa [insertEntry] using h)
  | cons x rest ih =>
    simp only [insertEntry] at h
    split at h
    · rcases List.mem_cons.1 h with h | h
      · exact .inl h
      · exact .inr h
    · split at h
      · rcases List.mem_cons.1 h with h | h
        · exact .inl h
        · exact .inr (List.mem_cons_of_mem _ h)
      · rcases List.mem_cons.1 h with h | h
        · exact .inr (by simp [h])
        · rcases ih h with h | h
          · exact .inl h
          · exact .inr (List.mem_cons_of_mem _ h)

theorem ordered_insertEntry {key : String} {v : α} {l : List (String × α)}
    (h : l.Pairwise fun a b => a.1 < b.1) :
    (insertEntry key v l).Pairwise fun a b => a.1 < b.1 := by
  induction l with
  | nil => simp [insertEntry]
  | cons x rest ih =>
    obtain ⟨k, w⟩ := x
    obtain ⟨hk, hrest⟩ := List.pairwise_cons.1 h
    simp only [insertEntry]
    split
    · next hlt =>
      refine List.pairwise_cons.2 ⟨fun e he => ?_, h⟩
      rcases List.mem_cons.1 he with rfl | he
      · exact hlt
      · exact String.lt_trans hlt (hk e he)
    · next hnlt =>
      split
      · next heq =>
        subst heq
        exact List.pairwise_cons.2 ⟨hk, hrest⟩
      · next hne =>
        refine List.pairwise_cons.2 ⟨fun e he => ?_, ih hrest⟩
        rcases eq_or_mem_of_mem_insertEntry he with rfl | he
        · exact lt_of_not_lt_of_ne hnlt hne
        · exact hk e he

theorem ordered_map {f : String → α → β} {l : List (String × α)}
    (h : l.Pairwise fun a b => a.1 < b.1) :
    (l.map fun e => (e.1, f e.1 e.2)).Pairwise fun a b => a.1 < b.1 :=
  List.pairwise_map.2 h

theorem ordered_filter {p : String × α → Bool} {l : List (String × α)}
    (h : l.Pairwise fun a b => a.1 < b.1) : (l.filter p).Pairwise fun a b => a.1 < b.1 :=
  h.filter p

/-- The table without entries. -/
def empty : Table α := ⟨[], .nil⟩

instance : Inhabited (Table α) := ⟨empty⟩

/-- The value under `key`. -/
def get? (t : Table α) (key : String) : Option α := find key t.entries

/-- Whether there is a value under `key`. -/
def contains (t : Table α) (key : String) : Bool := (t.get? key).isSome

/-- The table with `v` under `key`. -/
def insert (t : Table α) (key : String) (v : α) : Table α :=
  ⟨insertEntry key v t.entries, ordered_insertEntry t.ordered⟩

/-- The table without a value under `key`. -/
def erase (t : Table α) (key : String) : Table α :=
  ⟨t.entries.filter fun e => e.1 != key, ordered_filter t.ordered⟩

/-- The table with every value replaced by a function of it. -/
def map (f : α → β) (t : Table α) : Table β :=
  ⟨t.entries.map fun e => (e.1, f e.2), ordered_map (f := fun _ => f) t.ordered⟩

/-- The keys, in ascending order. -/
def keys (t : Table α) : List String := t.entries.map (·.1)

/-- The number of entries. -/
def size (t : Table α) : Nat := t.entries.length

/-- Whether there is no entry. -/
def isEmpty (t : Table α) : Bool := t.entries.isEmpty

/-- The table of a list of entries; of two with the same key the later one stays. -/
def ofList (l : List (String × α)) : Table α := l.foldl (fun t e => t.insert e.1 e.2) empty

end Table

end Overseer
