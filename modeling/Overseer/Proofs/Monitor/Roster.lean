import Mathlib.Data.List.Basic
import Overseer.Monitor.Roster
import Overseer.Proofs.Table

/-!
# Progress in the roster

What each operation on a roster does to the progress of one account.

* `Roster.state?_reconcile` : a snapshot merges into the progress of every listed account the
  outcome that it holds for it, and nothing else.
* `Roster.hasChanges_reconcile_iff` : it reports changes exactly if it changes the progress of an
  account, so what a roster shows stays the same under one that reports none
  (`Roster.rows_reconcile_of_unchanged`).
* `Roster.report_reconcile` : its report counts what became of each outcome by itself.
* `Roster.Sound` : the accounts and the ids with a progress are the same.  Every operation keeps it.
-/

namespace Overseer.Monitor

open Overseer.Batch

namespace Roster

theorem contains_iff {r : Roster} {id : String} :
    r.contains id = true ↔ ∃ p, r.state? id = some p :=
  Option.isSome_iff_exists

theorem contains_eq_isSome (r : Roster) (id : String) :
    r.contains id = (r.state? id).isSome := rfl

theorem contains_eq_false_iff {r : Roster} {id : String} :
    r.contains id = false ↔ r.state? id = none := by
  rw [contains_eq_isSome, Option.isSome_eq_false_iff, Option.isNone_iff_eq_none]

theorem state?_resetAll (r : Roster) (p : Progress) (id : String) :
    (r.resetAll p).state? id = (r.state? id).map fun _ => p :=
  Table.get?_map _ r.states id

theorem state?_setMessages (r : Roster) (m : String) (id : String) :
    (r.setMessages m).state? id = (r.state? id).map fun p => { p with message := m } :=
  Table.get?_map _ r.states id

theorem accounts_set (r : Roster) (id : String) (p : Progress) :
    (r.set id p).accounts = r.accounts := by
  unfold set
  split <;> rfl

theorem state?_set (r : Roster) (key id : String) (p : Progress) :
    (r.set key p).state? id = if key = id then (r.state? id).map fun _ => p else r.state? id := by
  unfold set
  split
  · next hc =>
    obtain ⟨q, hq⟩ := contains_iff.1 hc
    refine (Table.get?_insert ..).trans ?_
    split
    · next hk => rw [← hk, hq, Option.map_some]
    · rfl
  · next hc =>
    split
    · next hk =>
      rw [← hk, contains_eq_false_iff.1 (Bool.eq_false_iff.2 hc), Option.map_none]
    · rfl

/-- What a progress becomes by an outcome, if there is one. -/
def mergeOptional (p : Progress) : Option Outcome → Progress
  | some o => (merge p o).1
  | none => p

theorem reconcileOne_fst_of_listed {s : Roster × Report} {key : String} {o : Outcome}
    {p : Progress} (h : s.1.state? key = some p) :
    (reconcileOne s key o).1 = { s.1 with states := s.1.states.insert key (merge p o).1 } := by
  simp only [reconcileOne, h]

theorem state?_reconcileOne (s : Roster × Report) (key id : String) (o : Outcome) :
    (reconcileOne s key o).1.state? id =
      if key = id then (s.1.state? id).map fun p => (merge p o).1 else s.1.state? id := by
  by_cases hk : key = id
  · subst hk
    rw [if_pos rfl]
    cases hs : s.1.state? key with
    | none => simp [reconcileOne, hs]
    | some p =>
      rw [reconcileOne_fst_of_listed hs, Option.map_some]
      exact (Table.get?_insert ..).trans (if_pos rfl)
  · rw [if_neg hk]
    cases hs : s.1.state? key with
    | none => simp only [reconcileOne, hs]
    | some p =>
      rw [reconcileOne_fst_of_listed hs]
      exact (Table.get?_insert ..).trans (if_neg hk)

theorem state?_foldl_reconcileOne {l : List (String × Outcome)} (h : (l.map (·.1)).Nodup)
    (s : Roster × Report) (id : String) :
    (l.foldl (fun s e => reconcileOne s e.1 e.2) s).1.state? id =
      (s.1.state? id).map fun p => mergeOptional p (Table.find id l) := by
  induction l generalizing s with
  | nil => simp [Table.find, mergeOptional]
  | cons x rest ih =>
    rw [List.foldl_cons, ih (List.nodup_cons.1 h).2, state?_reconcileOne, Table.find]
    by_cases hx : x.1 = id
    · -- the key does not come again, so the rest leaves this account alone
      have hrest : Table.find id rest = none := hx ▸ Table.find_tail_of_nodup h
      simp [hx, hrest, mergeOptional, Function.comp_def]
    · simp [hx]

/-- **A snapshot merges into each listed account its own outcome.** -/
theorem state?_reconcile (r : Roster) (s : Snapshot) (id : String) :
    (r.reconcile s).1.state? id =
      (r.state? id).map fun p => mergeOptional p (s.outcomes.get? id) :=
  state?_foldl_reconcileOne s.outcomes.nodup_keys (r, .empty) id

/-! ### What a snapshot reports -/

theorem accounts_reconcileOne (s : Roster × Report) (key : String) (o : Outcome) :
    (reconcileOne s key o).1.accounts = s.1.accounts := by
  unfold reconcileOne
  split <;> rfl

theorem accounts_reconcileList (r : Roster) (l : List (String × Outcome)) :
    (r.reconcileList l).1.accounts = r.accounts := by
  have hfold : ∀ x : Roster × Report,
      (l.foldl (fun s e => reconcileOne s e.1 e.2) x).1.accounts = x.1.accounts := by
    induction l with
    | nil => exact fun _ => rfl
    | cons e rest ih => exact fun x => (ih _).trans (accounts_reconcileOne ..)
  exact hfold ..

theorem accounts_reconcile (r : Roster) (s : Snapshot) :
    (r.reconcile s).1.accounts = r.accounts := accounts_reconcileList ..

/-- What becomes of an outcome, if its account is listed. -/
def verdict (r : Roster) (e : String × Outcome) : Option Merge :=
  (r.state? e.1).map fun p => (merge p e.2).2

end Roster

namespace Report

/-- The report with one outcome more, of an account that is listed or of one that is not. -/
def note (r : Report) : Option Merge → Report
  | some m => r.count m
  | none => { r with unknown := r.unknown + 1 }

/-- The report of outcomes by what became of them. -/
def ofVerdicts (vs : List (Option Merge)) : Report :=
  ⟨vs.count (some .changed), vs.count (some .unchanged), vs.count (some .regression),
    vs.count none, 0⟩

theorem ofVerdicts_cons (v : Option Merge) (vs : List (Option Merge)) :
    ofVerdicts (v :: vs) = (ofVerdicts vs).note v := by
  rcases v with _ | _ | _ | _ <;> simp [ofVerdicts, note, count]

theorem foldl_note (r : Report) (vs : List (Option Merge)) :
    vs.foldl note r = ⟨r.changed + vs.count (some .changed),
      r.unchanged + vs.count (some .unchanged), r.regressions + vs.count (some .regression),
      r.unknown + vs.count none, r.missing⟩ := by
  induction vs generalizing r with
  | nil => rfl
  | cons v rest ih =>
    rw [List.foldl_cons, ih]
    rcases v with _ | _ | _ | _ <;> simp [note, count] <;> omega

theorem foldl_note_empty (vs : List (Option Merge)) : vs.foldl note .empty = .ofVerdicts vs := by
  simp [foldl_note, empty, ofVerdicts]

end Report

namespace Roster

theorem report_reconcileOne (s : Roster × Report) (e : String × Outcome) :
    (reconcileOne s e.1 e.2).2 = s.2.note (s.1.verdict e) := by
  unfold reconcileOne verdict
  cases s.1.state? e.1 <;> rfl

theorem report_foldl_reconcileOne {l : List (String × Outcome)} (h : (l.map (·.1)).Nodup)
    (s : Roster × Report) :
    (l.foldl (fun s e => reconcileOne s e.1 e.2) s).2 = (l.map s.1.verdict).foldl .note s.2 := by
  induction l generalizing s with
  | nil => rfl
  | cons x rest ih =>
    obtain ⟨hx, hrest⟩ := List.nodup_cons.1 h
    -- the outcomes behind this one are about other accounts
    have hsame : rest.map (reconcileOne s x.1 x.2).1.verdict = rest.map s.1.verdict := by
      refine List.map_congr_left fun e he => ?_
      have hne : x.1 ≠ e.1 := fun heq => hx (List.mem_map.2 ⟨e, he, heq.symm⟩)
      rw [verdict, state?_reconcileOne, if_neg hne, verdict]
    rw [List.foldl_cons, ih hrest, report_reconcileOne, hsame, List.map_cons, List.foldl_cons]

theorem report_reconcileList (r : Roster) {l : List (String × Outcome)} (h : (l.map (·.1)).Nodup) :
    (r.reconcileList l).2 = .ofVerdicts (l.map r.verdict) :=
  (report_foldl_reconcileOne h (r, .empty)).trans (Report.foldl_note_empty _)

/-- How many accounts a snapshot says nothing about. -/
def missing (r : Roster) (s : Snapshot) : Nat :=
  (r.accounts.filter fun a => !s.outcomes.contains a.id).length

theorem report_reconcile (r : Roster) (s : Snapshot) :
    (r.reconcile s).2 =
      { Report.ofVerdicts (s.outcomes.entries.map r.verdict) with missing := r.missing s } := by
  rw [missing, ← accounts_reconcileList r s.outcomes.entries,
    ← report_reconcileList r s.outcomes.nodup_keys]
  rfl

/-- An outcome changes something exactly if its account is listed and then stands otherwise. -/
theorem verdict_eq_changed_iff (r : Roster) (e : String × Outcome) :
    r.verdict e = some .changed ↔ ∃ p, r.state? e.1 = some p ∧ (merge p e.2).1 ≠ p := by
  simp only [verdict, Option.map_eq_some_iff, merge_snd_eq_changed_iff]

/-- **A snapshot reports changes exactly if the progress of some account is another one.** -/
theorem hasChanges_reconcile_iff (r : Roster) (s : Snapshot) :
    (r.reconcile s).2.hasChanges = true ↔ ∃ id, (r.reconcile s).1.state? id ≠ r.state? id := by
  have hpos : (r.reconcile s).2.hasChanges = true ↔
      ∃ e ∈ s.outcomes.entries, r.verdict e = some .changed := by
    rw [report_reconcile, Report.hasChanges, decide_eq_true_iff, Report.ofVerdicts,
      List.count_pos_iff, List.mem_map]
  rw [hpos]
  constructor
  · rintro ⟨⟨id, o⟩, hmem, hch⟩
    obtain ⟨p, hp, hm⟩ := (verdict_eq_changed_iff r (id, o)).1 hch
    refine ⟨id, ?_⟩
    rw [state?_reconcile, hp, Table.mem_entries_iff.1 hmem]
    simpa [mergeOptional] using hm
  · rintro ⟨id, hne⟩
    rw [state?_reconcile] at hne
    cases hp : r.state? id with
    | none => simp [hp] at hne
    | some p =>
      cases ho : s.outcomes.get? id with
      | none => simp [hp, ho, mergeOptional] at hne
      | some o =>
        have hm : (merge p o).1 ≠ p := by simpa [hp, ho, mergeOptional] using hne
        exact ⟨(id, o), Table.mem_entries_iff.2 ho,
          (verdict_eq_changed_iff r (id, o)).2 ⟨p, hp, hm⟩⟩

theorem rows_congr {r r' : Roster} (ha : r'.accounts = r.accounts)
    (hs : ∀ id, r'.state? id = r.state? id) : r'.rows = r.rows := by
  simp only [rows, ha, hs]

theorem rows_reconcile_of_unchanged {r : Roster} {s : Snapshot}
    (h : (r.reconcile s).2.hasChanges = false) : (r.reconcile s).1.rows = r.rows := by
  refine rows_congr (accounts_reconcile r s) fun id => Decidable.byContradiction fun hne => ?_
  have := (hasChanges_reconcile_iff r s).2 ⟨id, hne⟩
  rw [h] at this
  cases this

/-! ### Accounts and their progress -/

/-- A roster in order: it keeps the progress of the accounts that are listed, and of no other. -/
def Sound (r : Roster) : Prop := ∀ id, r.contains id = true ↔ ∃ a ∈ r.accounts, a.id = id

theorem sound_empty : empty.Sound := fun _ => ⟨nofun, nofun⟩

theorem Sound.congr {r r' : Roster} (h : r.Sound) (ha : r'.accounts = r.accounts)
    (hs : ∀ id, (r'.state? id).isSome = (r.state? id).isSome) : r'.Sound := by
  intro id
  rw [contains_eq_isSome, hs, ha]
  exact h id

theorem Sound.resetAll {r : Roster} (h : r.Sound) (p : Progress) : (r.resetAll p).Sound :=
  h.congr rfl fun id => by rw [state?_resetAll, Option.isSome_map]

theorem Sound.setMessages {r : Roster} (h : r.Sound) (m : String) : (r.setMessages m).Sound :=
  h.congr rfl fun id => by rw [state?_setMessages, Option.isSome_map]

theorem Sound.reconcile {r : Roster} (h : r.Sound) (s : Snapshot) : (r.reconcile s).1.Sound :=
  h.congr (accounts_reconcile r s) fun id => by rw [state?_reconcile, Option.isSome_map]

/-- A consistent roster: its accounts have distinct ids, and it keeps the progress of these ids and
of no other. -/
structure Consistent (r : Roster) : Prop where
  sound : r.Sound
  distinct : (r.accounts.map (·.id)).Nodup

theorem Consistent.congr {r r' : Roster} (h : r.Consistent) (ha : r'.accounts = r.accounts)
    (hs : ∀ id, (r'.state? id).isSome = (r.state? id).isSome) : r'.Consistent :=
  ⟨h.sound.congr ha hs, ha ▸ h.distinct⟩

theorem Consistent.keys_perm {r : Roster} (h : r.Consistent) :
    r.states.keys.Perm (r.accounts.map (·.id)) := by
  refine (List.perm_ext_iff_of_nodup r.states.nodup_keys h.distinct).2 fun id => ?_
  rw [Table.mem_keys_iff, List.mem_map]
  exact h.sound id

theorem Consistent.size_states {r : Roster} (h : r.Consistent) : r.states.size = r.size := by
  simpa [Table.keys, Table.size, size] using h.keys_perm.length_eq

theorem ext_state? {r r' : Roster} (ha : r.accounts = r'.accounts)
    (hs : ∀ id, r.state? id = r'.state? id) : r = r' := by
  obtain ⟨accounts, states⟩ := r
  obtain ⟨accounts', states'⟩ := r'
  obtain rfl : accounts = accounts' := ha
  obtain rfl : states = states' := Table.ext_get? hs
  rfl

end Roster

end Overseer.Monitor
