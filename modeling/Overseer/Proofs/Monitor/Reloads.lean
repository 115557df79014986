import Mathlib.Data.List.Induction
import Overseer.Proofs.Monitor.Roster

/-!
# Reloads

A reload goes through the new list.  The first account with an id is taken in, with the progress
that the old roster has for the id; one with an id that was taken in is passed over.
`Intake.Took` is all that one account of the list does.  What holds of a reload in the middle
(`Intake.Halfway`) goes by its cases, and by induction over the list it holds at the end.

* `Roster.state?_replace` : who is still listed stands as before, and who is new is ready.
* `Roster.reload` : **what a reload does to a roster after any operations**: which accounts it
  leaves, how they stand, and the four sums of its report.
-/

namespace Overseer.Monitor

open Overseer.Batch

/-- The accounts of a list, of several with one id the first. -/
def firsts (l : List Account) : List Account := l.eraseDupsBy fun a b => a.id == b.id

theorem firsts_cons (a : Account) (l : List Account) :
    firsts (a :: l) = a :: firsts (l.filter fun b => b.id != a.id) := by
  rw [firsts, List.eraseDupsBy_cons, firsts]
  congr 3
  funext b
  cases h : b.id == a.id <;> simp [bne, h]

namespace Roster

variable {r : Roster} {a : Account} {p : Progress}

/-- The roster with one account more, in front of the others. -/
def enlist (r : Roster) (a : Account) (p : Progress) : Roster :=
  ⟨a :: r.accounts, r.states.insert a.id p⟩

@[simp] theorem accounts_enlist (r : Roster) (a : Account) (p : Progress) :
    (r.enlist a p).accounts = a :: r.accounts := rfl

theorem state?_enlist (r : Roster) (a : Account) (p : Progress) (id : String) :
    (r.enlist a p).state? id = if a.id = id then some p else r.state? id := Table.get?_insert ..

theorem contains_enlist (r : Roster) (a : Account) (p : Progress) (id : String) :
    (r.enlist a p).contains id = (a.id == id || r.contains id) := by
  rw [contains_eq_isSome, state?_enlist]
  by_cases ha : a.id = id <;> simp [ha, contains_eq_isSome]

theorem Sound.enlist (h : r.Sound) (a : Account) (p : Progress) : (r.enlist a p).Sound := by
  intro id
  rw [contains_enlist, accounts_enlist, List.exists_mem_cons_iff, ← h id, Bool.or_eq_true,
    beq_iff_eq]

theorem Consistent.enlist (h : r.Consistent) (hc : r.contains a.id = false) (p : Progress) :
    (r.enlist a p).Consistent := by
  refine ⟨h.sound.enlist a p, List.nodup_cons.2 ⟨fun hmem => ?_, h.distinct⟩⟩
  rw [(h.sound a.id).2 (List.mem_map.1 hmem)] at hc
  cases hc

end Roster

namespace Intake

variable {r : Roster} {i i' : Intake} {a : Account} {id : String} {n : Nat}

/-- All that one account of the new list does. -/
inductive Took (i : Intake) (a : Account) : Intake → Prop where
  /-- One with its id was taken in before. -/
  | repeated (hc : i.next.contains a.id = true) :
      Took i a { i with report := { i.report with duplicates := i.report.duplicates + 1 } }
  /-- It was listed before the reload. -/
  | kept {p : Progress} (hc : i.next.contains a.id = false) (hp : i.left.get? a.id = some p) :
      Took i a ⟨i.left.erase a.id, i.next.enlist a p, { i.report with kept := i.report.kept + 1 }⟩
  | added (hc : i.next.contains a.id = false) (hp : i.left.get? a.id = none) :
      Took i a ⟨i.left, i.next.enlist a .ready, { i.report with added := i.report.added + 1 }⟩

theorem took_take (i : Intake) (a : Account) : i.Took a (i.take a) := by
  unfold take
  split
  · next hc => exact .repeated hc
  · next hc =>
    have hc : i.next.contains a.id = false := Bool.not_eq_true _ ▸ hc
    split
    · next hp => exact .kept hc hp
    · next hp => exact .added hc hp

theorem Took.state?_self (h : i.Took a i') : i'.next.state? a.id =
    some ((i.next.state? a.id).getD ((i.left.get? a.id).getD .ready)) := by
  cases h with
  | repeated hc =>
    obtain ⟨p, hp⟩ := Roster.contains_iff.1 hc
    rw [hp, Option.getD_some]
  | kept hc hp | added hc hp =>
    rw [Roster.state?_enlist, if_pos rfl, Roster.contains_eq_false_iff.1 hc, hp]
    rfl

theorem Took.other (h : i.Took a i') (hne : a.id ≠ id) :
    i'.next.state? id = i.next.state? id ∧ i'.left.get? id = i.left.get? id := by
  cases h with
  | repeated => exact ⟨rfl, rfl⟩
  | kept hc hp =>
    exact ⟨(Roster.state?_enlist ..).trans (if_neg hne), (Table.get?_erase ..).trans (if_neg hne)⟩
  | added => exact ⟨(Roster.state?_enlist ..).trans (if_neg hne), rfl⟩

theorem state?_foldl_take (l : List Account) (i : Intake) (id : String) :
    (l.foldl take i).next.state? id = (i.next.state? id).or
      (if id ∈ l.map (·.id) then some ((i.left.get? id).getD .ready) else none) := by
  induction l generalizing i with
  | nil => simp
  | cons a rest ih =>
    rw [List.foldl_cons, ih, List.map_cons]
    by_cases ha : a.id = id
    · -- whatever comes behind, the first account with an id counts
      subst ha
      rw [(i.took_take a).state?_self, if_pos List.mem_cons_self]
      cases i.next.state? a.id <;> rfl
    · obtain ⟨hnext, hleft⟩ := (i.took_take a).other ha
      simp only [hnext, hleft, List.mem_cons, Ne.symm ha, false_or]

/-- The accounts that are taken in are the first ones with an id that is not listed yet. -/
theorem accounts_foldl_take (l : List Account) (i : Intake) :
    (l.foldl take i).next.accounts.reverse =
      i.next.accounts.reverse ++ firsts (l.filter fun a => !i.next.contains a.id) := by
  induction l generalizing i with
  | nil => exact (List.append_nil _).symm
  | cons a rest ih =>
    rw [List.foldl_cons, ih]
    have htook := i.took_take a
    generalize i.take a = i' at htook
    cases htook with
    | repeated hc => rw [List.filter_cons_of_neg (by simp [hc])]
    | kept hc | added hc =>
      -- behind the account, those with its id are listed as well
      simp only [Roster.contains_enlist, Roster.accounts_enlist, List.reverse_cons,
        List.append_assoc, List.singleton_append]
      rw [List.filter_cons_of_pos (by simp [hc]), firsts_cons, List.filter_filter]
      congr 4
      funext b
      simp only [Bool.not_or, bne, BEq.comm]

/-- What holds of a reload in the middle, when so many accounts of the list were gone through. -/
structure Halfway (r : Roster) (n : Nat) (i : Intake) : Prop where
  consistent : i.next.Consistent
  /-- Who was not taken in is left as the old roster had it. -/
  waits : ∀ {id}, i.next.contains id = false → i.left.get? id = r.state? id
  listed : i.report.kept + i.report.added = i.next.size
  taken : i.report.kept + i.report.added + i.report.duplicates = n
  left : i.report.kept + i.left.size = r.states.size
  kept : i.report.kept = i.next.accounts.countP fun a => r.contains a.id

theorem halfway_start (r : Roster) : Halfway r 0 ⟨r.states, .empty, ⟨0, 0, 0, 0⟩⟩ where
  consistent := ⟨Roster.sound_empty, List.nodup_nil⟩
  waits _ := rfl
  listed := rfl
  taken := rfl
  left := Nat.zero_add _
  kept := rfl

/-- Who is not taken in after an account has another id, and was not taken in before it. -/
theorem not_contains_enlist {p : Progress} (h : (i.next.enlist a p).contains id = false) :
    a.id ≠ id ∧ i.next.contains id = false := by
  simpa [Roster.contains_enlist] using h

theorem Halfway.take (h : i.Halfway r n) (ht : i.Took a i') : i'.Halfway r (n + 1) := by
  have hlisted := h.listed
  have htaken := h.taken
  have hleft := h.left
  have hkept := h.kept
  simp only [Roster.size] at hlisted
  cases ht with
  | repeated hc => exact ⟨h.consistent, h.waits, h.listed, by simp; omega, hleft, hkept⟩
  | kept hc hp =>
    have hr : r.contains a.id = true := Roster.contains_iff.2 ⟨_, (h.waits hc).symm.trans hp⟩
    have hsize := Table.size_erase (Option.isSome_iff_exists.2 ⟨_, hp⟩)
    refine ⟨h.consistent.enlist hc _, fun hn => ?_, ?_, ?_, ?_, ?_⟩
    · obtain ⟨hne, hn⟩ := not_contains_enlist hn
      exact ((Table.get?_erase ..).trans (if_neg hne)).trans (h.waits hn)
    · simp only [Roster.size, Roster.accounts_enlist, List.length_cons]; omega
    · simp only; omega
    · simp only; omega
    · simp [hr, hkept]
  | added hc hp =>
    have hr : r.contains a.id = false := Roster.contains_eq_false_iff.2 (h.waits hc ▸ hp)
    refine ⟨h.consistent.enlist hc _, fun hn => ?_, ?_, ?_, ?_, ?_⟩
    · exact h.waits (not_contains_enlist hn).2
    · simp only [Roster.size, Roster.accounts_enlist, List.length_cons]; omega
    · simp only; omega
    · exact hleft
    · simp [hr, hkept]

theorem Halfway.foldl (h : i.Halfway r n) (l : List Account) :
    (l.foldl Intake.take i).Halfway r (n + l.length) := by
  induction l generalizing i n with
  | nil => exact h
  | cons a rest ih =>
    rw [List.foldl_cons, List.length_cons, ← Nat.add_assoc, Nat.add_right_comm]
    exact ih (h.take (i.took_take a))

end Intake

namespace Roster

variable {r : Roster}

/-! ### A reload -/

/-- **A reload keeps the progress of every account that is still listed.**  The others that are
listed are new, and nothing is kept of an account that is listed no more. -/
theorem state?_replace (r : Roster) (l : List Account) (id : String) :
    (r.replace l).1.state? id =
      if id ∈ l.map (·.id) then some ((r.state? id).getD .ready) else none :=
  (Intake.state?_foldl_take l _ id).trans (Option.none_or ..)

/-- **The accounts are the first ones of the list with their ids**, in the order of the list. -/
theorem accounts_replace (r : Roster) (l : List Account) :
    (r.replace l).1.accounts = firsts l := by
  have h := Intake.accounts_foldl_take l ⟨r.states, empty, ⟨0, 0, 0, 0⟩⟩
  have hall : l.filter (fun a => !empty.contains a.id) = l := List.filter_eq_self.2 fun _ _ => rfl
  rwa [hall] at h

theorem contains_replace (r : Roster) (l : List Account) (id : String) :
    (r.replace l).1.contains id = true ↔ id ∈ l.map (·.id) := by
  rw [contains_eq_isSome, state?_replace]
  split <;> simp [*]

theorem halfway_replace (r : Roster) (l : List Account) :
    Intake.Halfway r l.length (l.foldl Intake.take ⟨r.states, empty, ⟨0, 0, 0, 0⟩⟩) := by
  simpa using (Intake.halfway_start r).foldl l

/-- **A reload leaves a consistent roster**, whatever it was before. -/
theorem consistent_replace (r : Roster) (l : List Account) : (r.replace l).1.Consistent := by
  obtain ⟨hsound, hdistinct⟩ := (halfway_replace r l).consistent
  refine ⟨fun id => ?_, ?_⟩
  · rw [replace]
    simp only [List.mem_reverse]
    exact hsound id
  · rw [replace, List.map_reverse, List.nodup_reverse]
    exact hdistinct

end Roster

/-! ### Operations on a roster -/

/-- An operation on a roster. -/
inductive RosterOp where
  | replace (accounts : List Account)
  | resetAll (p : Progress)
  /-- One account is given a progress. -/
  | set (id : String) (p : Progress)
  | setMessages (message : String)
  | reconcile (s : Snapshot)

namespace RosterOp

/-- The new list, if the operation is a reload. -/
def reload? : RosterOp → Option (List Account)
  | .replace accounts => some accounts
  | _ => none

/-- The list of the last reload. -/
def listed (ops : List RosterOp) : List Account := ((ops.filterMap reload?).getLast?).getD []

theorem listed_append (ops : List RosterOp) (op : RosterOp) :
    listed (ops ++ [op]) = op.reload?.getD (listed ops) := by
  rw [listed, List.filterMap_append, List.getLast?_append]
  cases h : op.reload? <;> simp [h, listed]

end RosterOp

namespace Roster

variable {r : Roster}

/-- The roster after an operation. -/
def next (r : Roster) : RosterOp → Roster
  | .replace accounts => (r.replace accounts).1
  | .resetAll p => r.resetAll p
  | .set id p => r.set id p
  | .setMessages message => r.setMessages message
  | .reconcile s => (r.reconcile s).1

/-- The roster after operations in order. -/
def after (ops : List RosterOp) : Roster := ops.foldl next empty

theorem after_append (ops : List RosterOp) (op : RosterOp) :
    after (ops ++ [op]) = (after ops).next op := List.foldl_concat ..

theorem next_of_stays (r : Roster) {op : RosterOp} (h : op.reload? = none) :
    (r.next op).accounts = r.accounts ∧
      ∀ id, ((r.next op).state? id).isSome = (r.state? id).isSome := by
  cases op with
  | replace => cases h
  | resetAll p => exact ⟨rfl, fun id => by rw [next, state?_resetAll, Option.isSome_map]⟩
  | set key p =>
    refine ⟨accounts_set .., fun id => ?_⟩
    rw [next, state?_set]
    split
    · exact Option.isSome_map ..
    · rfl
  | setMessages m => exact ⟨rfl, fun id => by rw [next, state?_setMessages, Option.isSome_map]⟩
  | reconcile s =>
    exact ⟨accounts_reconcile .., fun id => by rw [next, state?_reconcile, Option.isSome_map]⟩

theorem Consistent.next (h : r.Consistent) (op : RosterOp) : (r.next op).Consistent := by
  cases hop : op.reload? with
  | none =>
    obtain ⟨ha, hs⟩ := next_of_stays r hop
    exact h.congr ha hs
  | some l =>
    cases op with
    | replace => exact consistent_replace ..
    | _ => cases hop

theorem consistent_after (ops : List RosterOp) : (after ops).Consistent := by
  induction ops using List.reverseRecOn with
  | nil => exact ⟨sound_empty, List.nodup_nil⟩
  | append_singleton ops op ih =>
    rw [after_append]
    exact ih.next op

/-- **Known are the accounts that the last reload listed**, and nobody else. -/
theorem contains_after (ops : List RosterOp) (id : String) :
    (after ops).contains id = true ↔ id ∈ (RosterOp.listed ops).map (·.id) := by
  induction ops using List.reverseRecOn with
  | nil => exact ⟨nofun, nofun⟩
  | append_singleton ops op ih =>
    rw [after_append, RosterOp.listed_append]
    cases hop : op.reload? with
    | none => rw [contains_eq_isSome, (next_of_stays _ hop).2, ← contains_eq_isSome, ih]; rfl
    | some l =>
      cases op with
      | replace accounts =>
        obtain rfl : accounts = l := Option.some.inj hop
        exact contains_replace ..
      | _ => cases hop

/-- What a reload does to a roster. -/
structure Reloaded (r : Roster) (l : List Account) : Prop where
  /-- The accounts are the first ones of the list with their ids, in its order. -/
  accounts : (r.replace l).1.accounts = firsts l
  distinct : ((r.replace l).1.accounts.map (·.id)).Nodup
  /-- A progress is kept for their ids, and for nothing else. -/
  keys : (r.replace l).1.states.keys.Perm ((r.replace l).1.accounts.map (·.id))
  /-- Who was known before stands as before. -/
  stays : ∀ {id p}, id ∈ l.map (·.id) → r.state? id = some p →
    (r.replace l).1.state? id = some p
  /-- Who is new is ready. -/
  new : ∀ {id}, id ∈ l.map (·.id) → r.contains id = false →
    (r.replace l).1.state? id = some .ready
  forgotten : ∀ {id}, id ∉ l.map (·.id) → (r.replace l).1.state? id = none
  listed : (r.replace l).2.kept + (r.replace l).2.added = (r.replace l).1.size
  taken : (r.replace l).2.kept + (r.replace l).2.added + (r.replace l).2.duplicates = l.length
  left : (r.replace l).2.kept + (r.replace l).2.dropped = r.size
  /-- Kept are the accounts that were known before, each once. -/
  kept : (r.replace l).2.kept = (firsts l).countP fun a => r.contains a.id

theorem Consistent.reloaded (h : r.Consistent) (l : List Account) : r.Reloaded l := by
  have hout := consistent_replace r l
  have hhalf := halfway_replace r l
  refine ⟨accounts_replace r l, hout.distinct, hout.keys_perm, fun hid hp => ?_, fun hid hn => ?_,
    fun hid => ?_, ?_, ?_, ?_, ?_⟩
  · rw [state?_replace, if_pos hid, hp, Option.getD_some]
  · rw [state?_replace, if_pos hid, contains_eq_false_iff.1 hn, Option.getD_none]
  · rw [state?_replace, if_neg hid]
  · exact hhalf.listed.trans (List.length_reverse ..).symm
  · exact hhalf.taken
  · exact hhalf.left.trans h.size_states
  · rw [← accounts_replace r l, replace, List.countP_reverse]
    exact hhalf.kept

/-- **What a reload does to a roster after any operations**, for every list.  Known before are the
accounts that the last reload listed; so one that it dropped is new when it is listed again. -/
theorem reload (ops : List RosterOp) (l : List Account) :
    (after ops).Reloaded l ∧
      ∀ id, (after ops).contains id = true ↔ id ∈ (RosterOp.listed ops).map (·.id) :=
  ⟨(consistent_after ops).reloaded l, contains_after ops⟩

/-- An account keeps its success, one that was dropped is ready when it comes back, one with an
empty id is dropped now, and a repetition is passed over. -/
example :
    let r := after [.replace [⟨"a", "A"⟩, ⟨"", "B"⟩, ⟨"c", "C"⟩], .set "a" ⟨.success, "done", none⟩,
      .set "c" ⟨.failed, "lost", none⟩, .replace [⟨"", "B"⟩, ⟨"a", "A"⟩]]
    let out := r.replace [⟨"c", "C"⟩, ⟨"a", "first"⟩, ⟨"a", "second"⟩]
    out.1.rows = [(⟨"c", "C"⟩, .ready), (⟨"a", "first"⟩, ⟨.success, "done", none⟩)] ∧
      out.2 = ⟨1, 1, 1, 1⟩ := by decide +kernel

end Roster

end Overseer.Monitor
