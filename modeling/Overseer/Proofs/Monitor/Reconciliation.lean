import Overseer.Proofs.Monitor.Reloads

/-!
# Reconciliation

A snapshot is merged into a roster outcome by outcome, in whatever order the table of outcomes is
gone through, and what became of the outcomes is counted on the way.  The outcomes are about
different accounts, so none of them sees what another one did: the roster afterwards is determined
by its lookups (`Roster.ext_state?`), and the report by what becomes of each outcome in the roster
before (`Roster.report_reconcileList`).  Hence the order does not matter.

* `Roster.reconciliation` : **what a snapshot does to a consistent roster**, with the two ways in
  which its report adds up, and what is left to do when the snapshot comes a second time.
-/

namespace Overseer.Monitor

open Overseer.Batch

/-- What becomes of an outcome that comes a second time. -/
def Merge.again : Merge → Merge
  | .regression => .regression
  | .changed | .unchanged => .unchanged

/-- An outcome that was merged says what is known, unless it was behind; then it still is. -/
theorem merge_merge_snd (p : Progress) (o : Outcome) :
    (merge (merge p o).1 o).2 = (merge p o).2.again := by
  by_cases hb : behind p o = true
  · simp [merge, hb, Merge.again]
  · have hfst : (merge p o).1 = progressOf o := by rw [merge_fst, if_neg hb]
    have hagain : (merge p o).2.again = .unchanged := by
      rw [merge, if_neg hb]
      split <;> rfl
    rw [hfst, hagain]
    simp [merge, behind_progressOf]

namespace Report

theorem ofVerdicts_total (vs : List (Option Merge)) :
    (ofVerdicts vs).changed + (ofVerdicts vs).unchanged + (ofVerdicts vs).regressions +
      (ofVerdicts vs).unknown = vs.length := by
  induction vs with
  | nil => rfl
  | cons v rest ih =>
    rw [ofVerdicts_cons, List.length_cons, ← ih]
    rcases v with _ | _ | _ | _ <;> simp only [note, count] <;> omega

theorem ofVerdicts_listed (vs : List (Option Merge)) :
    (ofVerdicts vs).changed + (ofVerdicts vs).unchanged + (ofVerdicts vs).regressions =
      vs.countP (·.isSome) := by
  induction vs with
  | nil => rfl
  | cons v rest ih =>
    rw [ofVerdicts_cons, List.countP_cons, ← ih]
    rcases v with _ | _ | _ | _ <;> simp [note, count] <;> omega

theorem ofVerdicts_perm {vs vs' : List (Option Merge)} (h : vs.Perm vs') :
    ofVerdicts vs = ofVerdicts vs' := by
  simp only [ofVerdicts, h.count_eq]

/-- The report of the same outcomes a second time. -/
def again (r : Report) : Report := { r with changed := 0, unchanged := r.changed + r.unchanged }

theorem again_note (r : Report) (v : Option Merge) :
    (r.note v).again = r.again.note (v.map Merge.again) := by
  cases v with
  | none => rfl
  | some m =>
    cases m with
    | changed =>
      exact congrArg (fun n => { r with changed := 0, unchanged := n }) (Nat.add_right_comm ..)
    | unchanged | regression => rfl

theorem ofVerdicts_again (vs : List (Option Merge)) :
    ofVerdicts (vs.map (·.map Merge.again)) = (ofVerdicts vs).again := by
  induction vs with
  | nil => rfl
  | cons v rest ih => rw [List.map_cons, ofVerdicts_cons, ofVerdicts_cons, ih, again_note]

end Report

namespace Roster

/-- Merges a snapshot with its outcomes in the order of a list. -/
def reconcileIn (r : Roster) (s : Snapshot) (order : List (String × Outcome)) : Roster × Report :=
  let out := r.reconcileList order
  (out.1, { out.2 with missing := out.1.missing s })

theorem isSome_verdict (r : Roster) (e : String × Outcome) :
    (r.verdict e).isSome = r.contains e.1 := Option.isSome_map ..

/-- **The order of the outcomes does not matter.** -/
theorem reconcileIn_of_perm (r : Roster) {s : Snapshot} {l : List (String × Outcome)}
    (h : l.Perm s.outcomes.entries) : r.reconcileIn s l = r.reconcile s := by
  have hkeys : (l.map (·.1)).Nodup := (h.map _).nodup_iff.2 s.outcomes.nodup_keys
  have hnext : (r.reconcileList l).1 = (r.reconcile s).1 := by
    refine ext_state? (accounts_reconcileList r l |>.trans (accounts_reconcile r s).symm)
      fun id => ?_
    rw [state?_reconcile, reconcileList, state?_foldl_reconcileOne hkeys, Table.find_perm h hkeys]
    rfl
  have hreport : (r.reconcileList l).2 = .ofVerdicts (s.outcomes.entries.map r.verdict) := by
    rw [report_reconcileList r hkeys, Report.ofVerdicts_perm (h.map _)]
  have hmissing : (r.reconcile s).1.missing s = r.missing s := by
    rw [missing, accounts_reconcile, missing]
  simp only [reconcileIn, hnext, hreport, hmissing, ← report_reconcile]

/-- Outcomes of listed accounts and accounts with an outcome are equally many. -/
theorem Consistent.countP_listed {r : Roster} (h : r.Consistent) (s : Snapshot) :
    s.outcomes.entries.countP (fun e => r.contains e.1) =
      r.accounts.countP fun a => s.outcomes.contains a.id := by
  have hperm : (s.outcomes.keys.filter r.contains).Perm
      ((r.accounts.map (·.id)).filter s.outcomes.contains) := by
    refine (List.perm_ext_iff_of_nodup (s.outcomes.nodup_keys.filter _)
      (h.distinct.filter _)).2 fun id => ?_
    rw [List.mem_filter, List.mem_filter, Table.mem_keys_iff, List.mem_map, ← h.sound id, and_comm]
  have hlen := hperm.length_eq
  rwa [← List.countP_eq_length_filter, ← List.countP_eq_length_filter, Table.keys, List.countP_map,
    List.countP_map] at hlen

/-- In a roster that has taken a snapshot, its outcomes have come a second time. -/
theorem verdict_reconcile (r : Roster) (s : Snapshot) {e : String × Outcome}
    (he : e ∈ s.outcomes.entries) :
    (r.reconcile s).1.verdict e = (r.verdict e).map Merge.again := by
  have ho : s.outcomes.get? e.1 = some e.2 := Table.mem_entries_iff.1 he
  rw [verdict, verdict, state?_reconcile, ho]
  cases r.state? e.1 with
  | none => rfl
  | some p => exact congrArg some (merge_merge_snd p e.2)

/-- **A snapshot that comes a second time** changes nothing, and is reported as such. -/
theorem reconcile_reconcile (r : Roster) (s : Snapshot) :
    (r.reconcile s).1.reconcile s = ((r.reconcile s).1, (r.reconcile s).2.again) := by
  have hroster : ((r.reconcile s).1.reconcile s).1 = (r.reconcile s).1 := by
    refine ext_state? (accounts_reconcile ..) fun id => ?_
    rw [state?_reconcile, state?_reconcile, Option.map_map]
    refine Option.map_congr fun p _ => ?_
    cases s.outcomes.get? id with
    | none => rfl
    | some o => exact merge_merge p o
  have hreport : ((r.reconcile s).1.reconcile s).2 = (r.reconcile s).2.again := by
    have hverdicts : s.outcomes.entries.map (r.reconcile s).1.verdict =
        (s.outcomes.entries.map r.verdict).map (·.map Merge.again) := by
      rw [List.map_map]
      exact List.map_congr_left fun e he => verdict_reconcile r s he
    rw [report_reconcile, hverdicts, Report.ofVerdicts_again, missing, accounts_reconcile,
      report_reconcile]
    rfl
  exact Prod.ext hroster hreport

/-- What merging a snapshot does to a roster. -/
structure Reconciliation (r : Roster) (s : Snapshot) : Prop where
  /-- The order in which the outcomes are taken does not matter. -/
  order : ∀ {l}, l.Perm s.outcomes.entries → r.reconcileIn s l = r.reconcile s
  /-- A listed account with an outcome stands as its outcome makes it. -/
  merged : ∀ {id p o}, r.state? id = some p → s.outcomes.get? id = some o →
    (r.reconcile s).1.state? id = some (merge p o).1
  /-- All others stand as before. -/
  others : ∀ {id}, s.outcomes.get? id = none → (r.reconcile s).1.state? id = r.state? id
  accounts : (r.reconcile s).1.accounts = r.accounts
  /-- Nobody is listed, or listed no more, because of an outcome. -/
  known : ∀ id, (r.reconcile s).1.contains id = r.contains id
  /-- Each outcome is counted once. -/
  outcomes : (r.reconcile s).2.changed + (r.reconcile s).2.unchanged +
    (r.reconcile s).2.regressions + (r.reconcile s).2.unknown = s.outcomes.size
  /-- Each account is counted once. -/
  size : (r.reconcile s).2.changed + (r.reconcile s).2.unchanged +
    (r.reconcile s).2.regressions + (r.reconcile s).2.missing = r.size
  /-- Changes are reported exactly if an account stands otherwise than before. -/
  news : (r.reconcile s).2.hasChanges = true ↔ ∃ id, (r.reconcile s).1.state? id ≠ r.state? id
  /-- A second time nothing changes: what changed something is known now. -/
  again : (r.reconcile s).1.reconcile s = ((r.reconcile s).1,
    { (r.reconcile s).2 with
      changed := 0, unchanged := (r.reconcile s).2.changed + (r.reconcile s).2.unchanged })

/-- **What merging a snapshot does to a consistent roster.** -/
theorem reconciliation {r : Roster} (h : r.Consistent) (s : Snapshot) : r.Reconciliation s where
  order := r.reconcileIn_of_perm
  merged hp ho := by rw [state?_reconcile, hp, ho]; rfl
  others ho := by
    rw [state?_reconcile, ho]
    exact Option.map_id'
  accounts := accounts_reconcile r s
  known id := by rw [contains_eq_isSome, state?_reconcile, Option.isSome_map, contains_eq_isSome]
  outcomes := by
    have htotal := Report.ofVerdicts_total (s.outcomes.entries.map r.verdict)
    rw [List.length_map] at htotal
    rw [report_reconcile]
    exact htotal
  size := by
    have hlisted := Report.ofVerdicts_listed (s.outcomes.entries.map r.verdict)
    have hcount : (s.outcomes.entries.map r.verdict).countP (·.isSome) =
        r.accounts.countP fun a => s.outcomes.contains a.id := by
      rw [List.countP_map, ← h.countP_listed s]
      exact List.countP_congr fun e _ => by rw [Function.comp_apply, isSome_verdict]
    -- an account has an outcome or is missing in the snapshot
    have hsplit := List.length_eq_countP_add_countP (fun a => s.outcomes.contains a.id)
      (l := r.accounts)
    rw [report_reconcile, missing, ← List.countP_eq_length_filter, size, hsplit, ← hcount,
      ← hlisted]
    simp
  news := hasChanges_reconcile_iff r s
  again := reconcile_reconcile r s

/-- A failed account is said to be worked on again, another one has succeeded, one is not mentioned
and one that is mentioned is not listed: three accounts and three outcomes, from the last to the
first as well as in their order, and a second time. -/
theorem reconciliation_of_mixed :
    let r := after [.replace [⟨"b", "B"⟩, ⟨"a", "A"⟩, ⟨"c", "C"⟩], .set "a" ⟨.failed, "lost", none⟩]
    let s : Snapshot := ⟨true, .ofList [("a", ⟨false, false, "again", none⟩),
      ("b", ⟨true, true, "done", some "x"⟩), ("z", ⟨true, false, "lost", none⟩)]⟩
    r.Consistent ∧ r.reconcileIn s s.outcomes.entries.reverse = r.reconcile s ∧
      (r.reconcile s).1.state? "b" = some ⟨.success, "done", some "x"⟩ ∧
      (r.reconcile s).1.state? "c" = r.state? "c" ∧ (r.reconcile s).2 = ⟨1, 0, 1, 1, 1⟩ ∧
      (r.reconcile s).1.reconcile s = ((r.reconcile s).1, ⟨0, 1, 1, 1, 1⟩) := by
  intro r s
  have hr : r.Consistent := consistent_after _
  have h := reconciliation hr s
  have hb : r.state? "b" = some .ready := by decide +kernel
  have hreport : (r.reconcile s).2 = ⟨1, 0, 1, 1, 1⟩ := by decide +kernel
  refine ⟨hr, h.order (List.reverse_perm _), ?_, h.others (by decide +kernel), hreport, ?_⟩
  · exact (h.merged hb (o := ⟨true, true, "done", some "x"⟩) (by decide +kernel)).trans rfl
  · rw [h.again, hreport]
    rfl

end Roster

end Overseer.Monitor
