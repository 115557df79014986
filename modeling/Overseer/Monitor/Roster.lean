import Overseer.Batch.Account
import Overseer.Monitor.Merge

/-!
# The roster

The accounts in the order in which they were loaded, and the progress of each. A reload keeps the
progress of the accounts that are still listed, and a snapshot of the engine is merged account by
account.
-/

namespace Overseer.Monitor

open Overseer.Batch

/-- The registry: the accounts in the order of their list, and the progress of each. -/
structure Roster where
  /-- The accounts in order. -/
  accounts : List Account
  /-- The progress by id. -/
  states : Table Progress

/-- What a reload did. -/
structure Reload where
  /-- Accounts that were known before. -/
  kept : Nat
  /-- Accounts that are new. -/
  added : Nat
  /-- Accounts that are listed no more. -/
  dropped : Nat
  /-- Repetitions that were passed over. -/
  duplicates : Nat
  deriving DecidableEq, Repr

/-- What the outcomes of a snapshot did. -/
structure Report where
  /-- Outcomes that changed something. -/
  changed : Nat
  /-- Outcomes that said what was known. -/
  unchanged : Nat
  /-- Outcomes that were behind what was known. -/
  regressions : Nat
  /-- Outcomes of accounts that are not listed. -/
  unknown : Nat
  /-- Accounts without an outcome. -/
  missing : Nat
  deriving DecidableEq, Repr

namespace Report

/-- A report of nothing. -/
def empty : Report := ⟨0, 0, 0, 0, 0⟩

/-- Whether anything changed. -/
def hasChanges (r : Report) : Bool := 0 < r.changed

/-- The report with one outcome more. -/
def count (r : Report) : Merge → Report
  | .changed => { r with changed := r.changed + 1 }
  | .unchanged => { r with unchanged := r.unchanged + 1 }
  | .regression => { r with regressions := r.regressions + 1 }

end Report

/-- A reload in the middle. -/
structure Intake where
  /-- The progress that nobody has taken over. -/
  left : Table Progress
  /-- The new roster; its accounts are kept last first. -/
  next : Roster
  /-- What was done so far. -/
  report : Reload

/-- Takes in one account of the new list. The first of several with one id counts. -/
def Intake.take (i : Intake) (a : Account) : Intake :=
  if i.next.states.contains a.id then
    { i with report := { i.report with duplicates := i.report.duplicates + 1 } }
  else
    match i.left.get? a.id with
    | some p =>
      ⟨i.left.erase a.id, ⟨a :: i.next.accounts, i.next.states.insert a.id p⟩,
        { i.report with kept := i.report.kept + 1 }⟩
    | none =>
      ⟨i.left, ⟨a :: i.next.accounts, i.next.states.insert a.id .ready⟩,
        { i.report with added := i.report.added + 1 }⟩

namespace Roster

/-- The roster without accounts. -/
def empty : Roster := ⟨[], .empty⟩

/-- The number of accounts. -/
def size (r : Roster) : Nat := r.accounts.length

/-- Whether there is no account. -/
def isEmpty (r : Roster) : Bool := r.accounts.isEmpty

/-- Whether an id is listed. -/
def contains (r : Roster) (id : String) : Bool := r.states.contains id

/-- The progress of the account with an id. -/
def state? (r : Roster) (id : String) : Option Progress := r.states.get? id

/-- Replaces the list of accounts. -/
def replace (r : Roster) (accounts : List Account) : Roster × Reload :=
  let i := accounts.foldl Intake.take ⟨r.states, empty, ⟨0, 0, 0, 0⟩⟩
  (⟨i.next.accounts.reverse, i.next.states⟩, { i.report with dropped := i.left.size })

/-- Gives every account the same progress. -/
def resetAll (r : Roster) (p : Progress) : Roster := { r with states := r.states.map fun _ => p }

/-- Gives an account a progress, if it is listed. -/
def set (r : Roster) (id : String) (p : Progress) : Roster :=
  if r.contains id then { r with states := r.states.insert id p } else r

/-- Gives every account the same message. -/
def setMessages (r : Roster) (message : String) : Roster :=
  { r with states := r.states.map fun p => { p with message := message } }

/-- The accounts with their progress, in order. -/
def rows (r : Roster) : List (Account × Progress) :=
  r.accounts.filterMap fun a => (r.state? a.id).map fun p => (a, p)

/-- Merges one outcome. -/
def reconcileOne (s : Roster × Report) (id : String) (o : Outcome) : Roster × Report :=
  match s.1.state? id with
  | none => (s.1, { s.2 with unknown := s.2.unknown + 1 })
  | some p =>
    let m := merge p o
    ({ s.1 with states := s.1.states.insert id m.1 }, s.2.count m.2)

/-- Merges outcomes in the order of a list. -/
def reconcileList (r : Roster) (outcomes : List (String × Outcome)) : Roster × Report :=
  outcomes.foldl (fun s e => reconcileOne s e.1 e.2) (r, .empty)

/-- Merges a snapshot. Accounts without an outcome stay as they are. -/
def reconcile (r : Roster) (s : Snapshot) : Roster × Report :=
  let (next, report) := r.reconcileList s.outcomes.entries
  (next, { report with
    missing := (next.accounts.filter fun a => !s.outcomes.contains a.id).length })

end Roster

end Overseer.Monitor
