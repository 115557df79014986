import Overseer.Console.Render
import Overseer.Proofs.Monitor.Roster
import Overseer.Wire.Message

/-!
# Statuses over the wire

A snapshot goes over the wire as a status report.  What comes out at the other end is the snapshot
in its normal form, in which only a finished outcome is a success (`Outcome.settled`).  Nobody sees
the difference: an outcome that is not finished is not asked whether it is a success.

* `Snapshot.preserved_over_wire` : **a snapshot that went over the wire does what the one that was
  sent does**, to every roster and in every table.
-/

namespace Overseer.Batch

open Overseer.Console Overseer.Monitor Overseer.Wire

/-! ### Outcomes -/

namespace Outcome

/-- The normal form of an outcome: what is not finished is no success. -/
def settled (o : Outcome) : Outcome := { o with success := o.finished && o.success }

@[simp] theorem settled_message (o : Outcome) : o.settled.message = o.message := rfl

theorem settled_settled (o : Outcome) : o.settled.settled = o.settled := by
  cases hf : o.finished <;> simp [settled, hf]

theorem settled_eq_iff (o : Outcome) :
    o.settled = o ↔ (o.finished = false → o.success = false) := by
  obtain ⟨finished, success, message, detail⟩ := o
  cases finished <;> simp [settled, eq_comm]

@[simp] theorem settled_status (o : Outcome) : o.settled.status = o.status := by
  cases hf : o.finished <;> simp [settled, status, hf]

theorem toOutcome_ofOutcome (o : Outcome) : (TaskReport.ofOutcome o).toOutcome = o.settled := rfl

theorem progressOf_settled (o : Outcome) : progressOf o.settled = progressOf o := by
  have hdetail : (o.settled.finished && o.settled.success) = (o.finished && o.success) := by
    cases hf : o.finished <;> simp [settled, hf]
  rw [progressOf, progressOf, settled_status, hdetail]
  rfl

/-- **Merging an outcome or its normal form is the same**, wherever the account stands. -/
theorem merge_settled (p : Progress) (o : Outcome) : merge p o.settled = merge p o := by
  have hbehind : behind p o.settled = behind p o := rfl
  rw [merge, hbehind, progressOf_settled, merge]

end Outcome

/-! ### Snapshots -/

namespace Snapshot

/-- The snapshot that comes out of the status report of a snapshot. -/
def overWire (epoch : Option Nat) (s : Snapshot) : Snapshot :=
  (StatusReport.ofSnapshot epoch s).toSnapshot

variable (epoch : Option Nat) (s : Snapshot)

theorem entries_overWire : (s.overWire epoch).outcomes.entries =
    s.outcomes.entries.map fun e => (e.1, e.2.settled) := by
  simp only [overWire, StatusReport.ofSnapshot, StatusReport.toSnapshot, Table.map, List.map_map,
    Function.comp_def, Outcome.toOutcome_ofOutcome]

theorem get?_overWire (id : String) :
    (s.overWire epoch).outcomes.get? id = (s.outcomes.get? id).map Outcome.settled := by
  rw [Table.get?, entries_overWire, Table.find_map]
  rfl

theorem keys_overWire : (s.overWire epoch).outcomes.keys = s.outcomes.keys := by
  rw [Table.keys, entries_overWire, List.map_map]
  rfl

theorem contains_overWire (id : String) :
    (s.overWire epoch).outcomes.contains id = s.outcomes.contains id := by
  rw [Table.contains_eq_isSome, get?_overWire, Option.isSome_map, Table.contains_eq_isSome]

theorem overWire_eq_iff : s.overWire epoch = s ↔
    ∀ {id o}, s.outcomes.get? id = some o → o.finished = false → o.success = false := by
  constructor
  · intro h id o ho
    have hsame : (s.outcomes.get? id).map Outcome.settled = s.outcomes.get? id := by
      rw [← get?_overWire epoch, h]
    rw [ho, Option.map_some, Option.some.injEq] at hsame
    exact o.settled_eq_iff.1 hsame
  · intro h
    have houtcomes : (s.overWire epoch).outcomes = s.outcomes := by
      refine Table.ext_get? fun id => ?_
      rw [get?_overWire]
      cases ho : s.outcomes.get? id with
      | none => rfl
      | some o => exact congrArg some (o.settled_eq_iff.2 (h ho))
    exact congrArg (Snapshot.mk s.running) houtcomes

theorem overWire_overWire (epoch' : Option Nat) :
    (s.overWire epoch).overWire epoch' = s.overWire epoch := by
  refine (overWire_eq_iff epoch' _).2 fun {id o} ho => ?_
  rw [get?_overWire] at ho
  obtain ⟨sent, -, rfl⟩ := Option.map_eq_some_iff.1 ho
  exact sent.settled.settled_eq_iff.1 sent.settled_settled

/-- **Reconciliation does not see the way over the wire.** -/
theorem reconcile_overWire (r : Roster) : r.reconcile (s.overWire epoch) = r.reconcile s := by
  have hone : ∀ (x : Roster × Report) (e : String × Outcome),
      Roster.reconcileOne x e.1 e.2.settled = Roster.reconcileOne x e.1 e.2 := by
    intro x e
    simp only [Roster.reconcileOne, Outcome.merge_settled]
  have hlist : r.reconcileList (s.overWire epoch).outcomes.entries =
      r.reconcileList s.outcomes.entries := by
    simp only [Roster.reconcileList, entries_overWire, List.foldl_map, hone]
  simp only [Roster.reconcile, hlist, contains_overWire]

theorem tableIds_overWire (accounts : List Account) :
    tableIds (s.overWire epoch) accounts = tableIds s accounts := by
  simp only [tableIds, keys_overWire]
  congr 2
  exact funext (contains_overWire epoch s)

/-- **The table of the console does not see it either.** -/
theorem statusTable_overWire (accounts : List Account) (only : Option Status) :
    statusTable (s.overWire epoch) accounts only = statusTable s accounts only := by
  have hrunning : (s.overWire epoch).running = s.running := rfl
  have hempty : (s.overWire epoch).outcomes.isEmpty = s.outcomes.isEmpty := by
    rw [Table.isEmpty, entries_overWire, List.isEmpty_map, Table.isEmpty]
  have hline : ∀ id o, outcomeLine accounts id o.settled = outcomeLine accounts id o := by
    intro id o
    simp only [outcomeLine, Outcome.settled_status, Outcome.settled_message]
  simp only [statusTable, hrunning, hempty, tableIds_overWire, get?_overWire, Option.bind_map,
    Function.comp_def, Outcome.settled_status, hline]

/-- **A snapshot that went over the wire does what the one that was sent does.**  For every epoch
that the report names:

* it has the same ids and says the same about each of them, except that a success which is not
  finished is none any more; so it is the same one exactly if there was none of these, and a second
  time nothing is left to change;
* every roster takes it as it would have taken the other, with the same report, and the console
  prints the same table. -/
theorem preserved_over_wire (epoch : Option Nat) (s : Snapshot) :
    (s.overWire epoch).running = s.running ∧
      (s.overWire epoch).outcomes.keys = s.outcomes.keys ∧
      (∀ id, (s.overWire epoch).outcomes.get? id =
        (s.outcomes.get? id).map fun o => { o with success := o.finished && o.success }) ∧
      (s.overWire epoch = s ↔
        ∀ {id o}, s.outcomes.get? id = some o → o.finished = false → o.success = false) ∧
      (∀ epoch', (s.overWire epoch).overWire epoch' = s.overWire epoch) ∧
      (∀ r : Roster, r.reconcile (s.overWire epoch) = r.reconcile s) ∧
      ∀ accounts only, statusTable (s.overWire epoch) accounts only = statusTable s accounts only :=
  ⟨rfl, keys_overWire epoch s, get?_overWire epoch s, overWire_eq_iff epoch s,
    overWire_overWire epoch s, reconcile_overWire epoch s, statusTable_overWire epoch s⟩

end Snapshot

end Overseer.Batch
