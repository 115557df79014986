import Mathlib.Data.List.Nodup
import Overseer.Console.Render
import Overseer.Proofs.Monitor.Reloads

/-!
# The status table

The table has a row for each outcome of a snapshot that is asked for: first those of the listed
accounts, then the others.  The monitor would list the same rows, of a roster that has loaded the
list and merged the snapshot.  A list can name an id twice, and then they part: the roster takes the
first account with an id, and the table has a row for every one of them, all under the name of the
last.

* `statusTable_eq` : the table is its rows, line by line.
* `StatusRow.merge_of_pending` : a row shows what the outcome makes of an account that was pending.
* `boardRows_eq` : the rows of the monitor are those of the first accounts with their ids.
* `statusTable_tabulates` : **what the table shows**, for every snapshot, list and filter, and when
  it is what the monitor would list.
* `statusTable_repeats` : an account that is listed twice has two rows, with the wrong name.
-/

namespace Overseer.Console

open Overseer.Batch Overseer.Monitor Overseer.Text

/-- A row of the table. -/
structure StatusRow where
  id : String
  name : String
  status : Status
  message : String
  deriving DecidableEq, Repr

namespace StatusRow

variable {s : Snapshot} {only : Option Status} {id name : String} {r : StatusRow}

/-- The line of a row. -/
def line (r : StatusRow) : String :=
  padRight 14 (shortId r.id) ++ " " ++ padRight 16 r.name ++ " " ++ padRight 8 r.status.text ++
    " " ++ r.message

/-- The row of an account that stands so, if its status is asked for. -/
def of? (only : Option Status) (id name : String) (p : Progress) : Option StatusRow :=
  if only.all (· == p.status) then some ⟨id, name, p.status, p.message⟩ else none

/-- The row that a snapshot gives to an account that was pending. -/
def from? (s : Snapshot) (only : Option Status) (id name : String) : Option StatusRow :=
  (s.outcomes.get? id).bind fun o => of? only id name (merge .ready o).1

/-- Whatever outcome there is, of an account that was pending nothing stays. -/
theorem merge_of_pending {p : Progress} (h : p.status = .pending) (o : Outcome) :
    (merge p o).1 = progressOf o := by
  have hbehind : behind p o = false := by
    rw [behind, h]
    exact Bool.and_false _
  rw [merge_fst, hbehind]
  rfl

theorem from?_eq (s : Snapshot) (only : Option Status) (id name : String) :
    from? s only id name = (s.outcomes.get? id).bind fun o =>
      if only.all (· == o.status) then some ⟨id, name, o.status, o.message⟩ else none := by
  rw [from?]
  congr 1
  funext o
  rw [of?, merge_of_pending rfl]
  rfl

theorem exists_of_from? (h : from? s only id name = some r) : ∃ o, s.outcomes.get? id = some o ∧
    only.all (· == o.status) = true ∧ r = ⟨id, name, o.status, o.message⟩ := by
  rw [from?_eq] at h
  obtain ⟨o, ho, hr⟩ := Option.bind_eq_some_iff.1 h
  split at hr
  · next hasked => exact ⟨o, ho, hasked, (Option.some.inj hr).symm⟩
  · cases hr

theorem id_of_from? (h : from? s only id name = some r) : r.id = id := by
  obtain ⟨o, -, -, rfl⟩ := exists_of_from? h
  rfl

theorem outcome_of_from? (h : from? s only id name = some r) : ∃ o, s.outcomes.get? r.id = some o ∧
    only.all (· == r.status) = true ∧ ∀ p : Progress, p.status = .pending →
      (merge p o).1.status = r.status ∧ (merge p o).1.message = r.message := by
  obtain ⟨o, hget, hasked, rfl⟩ := exists_of_from? h
  refine ⟨o, hget, hasked, ?_⟩
  intro p hp
  rw [merge_of_pending hp]
  exact ⟨rfl, rfl⟩

/-- Whether an id has a row, under whatever name. -/
def given (s : Snapshot) (only : Option Status) (id : String) : Bool := (from? s only id "-").isSome

theorem map_id_from? (s : Snapshot) (only : Option Status) (id name : String) :
    (from? s only id name).map (·.id) = Option.guard (given s only) id := by
  have hname : (from? s only id name).isSome = given s only id := by
    rw [given, from?, from?, Option.isSome_bind, Option.isSome_bind]
    congr 1
    funext o
    rw [of?, of?]
    split <;> rfl
  cases h : from? s only id name with
  | none => rw [Option.guard, ← hname, h]; rfl
  | some r => rw [Option.guard, ← hname, h, Option.map_some, id_of_from? h]; rfl

theorem map_id_filterMap {α : Type} (s : Snapshot) (only : Option Status) (key name : α → String)
    (l : List α) :
    (l.filterMap fun a => from? s only (key a) (name a)).map (·.id) =
      (l.map key).filter (given s only) := by
  rw [List.map_filterMap, ← List.filterMap_eq_filter, List.filterMap_map]
  congr 1
  funext a
  exact map_id_from? ..

theorem given_of_from? (h : from? s only id name = some r) : given s only id = true := by
  have hid := map_id_from? s only id name
  rw [h] at hid
  exact (Option.guard_eq_some_iff.1 hid.symm).2

theorem contains_of_given (h : given s only id = true) : s.outcomes.contains id = true := by
  obtain ⟨r, hr⟩ := Option.isSome_iff_exists.1 h
  obtain ⟨o, ho, -, -⟩ := exists_of_from? hr
  exact Option.isSome_iff_exists.2 ⟨o, ho⟩

theorem filterMap_filter {α : Type} {p : String → Bool}
    (hp : ∀ id, given s only id = true → p id = true) (key name : α → String) (l : List α) :
    (l.filter fun a => p (key a)).filterMap (fun a => from? s only (key a) (name a)) =
      l.filterMap fun a => from? s only (key a) (name a) := by
  rw [List.filterMap_filter]
  congr 1
  funext a
  split
  · rfl
  · next hnot =>
    cases h : from? s only (key a) (name a) with
    | none => rfl
    | some r => exact absurd (hp _ (given_of_from? h)) hnot

end StatusRow

open StatusRow (of? from? merge_of_pending from?_eq outcome_of_from? given map_id_filterMap
  contains_of_given filterMap_filter)

variable {s : Snapshot} {accounts : List Account} {only : Option Status}

/-! ### What is printed -/

/-- The rows that are printed. -/
def tableRows (s : Snapshot) (accounts : List Account) (only : Option Status) : List StatusRow :=
  (tableIds s accounts).filterMap fun id => from? s only id (nameOf accounts id)

/-- The ids with an outcome that are not listed. -/
def unlisted (s : Snapshot) (accounts : List Account) : List String :=
  s.outcomes.keys.filter fun id => id ∉ accounts.map (·.id)

theorem mem_unlisted_iff {id : String} :
    id ∈ unlisted s accounts ↔ s.outcomes.contains id = true ∧ id ∉ accounts.map (·.id) := by
  rw [unlisted, List.mem_filter, Table.mem_keys_iff, decide_eq_true_iff]

/-- **The table is its rows**, line by line. -/
theorem statusTable_eq (s : Snapshot) (accounts : List Account) (only : Option Status) :
    statusTable s accounts only =
      if s.outcomes.isEmpty then
        "engine " ++ (if s.running then "running" else "idle") ++ "\n" ++ "no results reported"
      else trimEnd ("engine " ++ (if s.running then "running" else "idle") ++ "\n" ++
        String.join ((tableRows s accounts only).map fun r => r.line ++ "\n")) := by
  have hlines : ((tableRows s accounts only).map fun r => r.line ++ "\n") =
      (tableIds s accounts).filterMap fun id => (s.outcomes.get? id).bind fun o =>
        if only.isSome && only != some o.status then none
        else some (outcomeLine accounts id o ++ "\n") := by
    rw [tableRows, List.map_filterMap]
    congr 1
    funext id
    rw [from?_eq, Option.map_bind]
    congr 1
    funext o
    -- the filter is written the other way round
    have hasked : (only.isSome && only != some o.status) = !only.all (· == o.status) := by
      cases only <;> rfl
    rw [hasked, Function.comp_apply]
    cases only.all (· == o.status) <;> rfl
  rw [hlines, statusTable]

theorem find?_reverse_of_notMem {id : String} (h : id ∉ accounts.map (·.id)) :
    accounts.reverse.find? (·.id == id) = none := by
  rw [List.find?_eq_none]
  intro a ha heq
  exact h (List.mem_map.2 ⟨a, List.mem_reverse.1 ha, by simpa using heq⟩)

theorem nameOf_of_notMem {id : String} (h : id ∉ accounts.map (·.id)) :
    nameOf accounts id = "-" := by
  rw [nameOf, find?_reverse_of_notMem h]

theorem nameOf_last {l m : List Account} {a : Account} (h : a.id ∉ m.map (·.id)) :
    nameOf (l ++ a :: m) a.id = a.name := by
  have hfind : (l ++ a :: m).reverse.find? (·.id == a.id) = some a := by
    simp [find?_reverse_of_notMem h]
  rw [nameOf, hfind]

theorem tableIds_eq (s : Snapshot) (accounts : List Account) :
    tableIds s accounts =
      (accounts.map (·.id)).filter s.outcomes.contains ++ unlisted s accounts := by
  rw [tableIds, unlisted]
  congr 2
  funext id
  rw [Bool.eq_iff_iff]
  simp

/-- First come the listed accounts, and then the others. -/
theorem tableRows_eq (s : Snapshot) (accounts : List Account) (only : Option Status) :
    tableRows s accounts only =
      accounts.filterMap (fun a => from? s only a.id (nameOf accounts a.id)) ++
        (unlisted s accounts).filterMap fun id => from? s only id "-" := by
  rw [tableRows, tableIds_eq, List.filterMap_append]
  congr 1
  · exact (filterMap_filter (fun _ => contains_of_given) (fun id => id) (nameOf accounts) _).trans
      List.filterMap_map
  · refine List.filterMap_congr ?_
    intro id hid
    rw [nameOf_of_notMem (mem_unlisted_iff.1 hid).2]

theorem map_id_tableRows (s : Snapshot) (accounts : List Account) (only : Option Status) :
    (tableRows s accounts only).map (·.id) =
      (accounts.map (·.id)).filter (given s only) ++
        (unlisted s accounts).filter (given s only) := by
  have hlisted := map_id_filterMap s only (·.id) (fun a => nameOf accounts a.id) accounts
  have hothers := map_id_filterMap s only (fun id => id) (fun _ => "-") (unlisted s accounts)
  rw [List.map_id'] at hothers
  rw [tableRows_eq, List.map_append, hlisted, hothers]

/-- **An id that has a row has one for each time it is listed**, and one if it is not. -/
theorem count_tableRows (s : Snapshot) (accounts : List Account) (only : Option Status)
    (id : String) :
    ((tableRows s accounts only).map (·.id)).count id =
      if given s only id then max 1 ((accounts.map (·.id)).count id) else 0 := by
  rw [map_id_tableRows, List.count_append]
  by_cases hgiven : given s only id = true
  · rw [if_pos hgiven, List.count_filter hgiven, List.count_filter hgiven]
    by_cases hmem : id ∈ accounts.map (·.id)
    · have hnot : id ∉ unlisted s accounts := by
        intro hin
        exact (mem_unlisted_iff.1 hin).2 hmem
      have hpos := List.count_pos_iff.2 hmem
      rw [List.count_eq_zero_of_not_mem hnot]
      omega
    · have hin : id ∈ unlisted s accounts :=
        mem_unlisted_iff.2 ⟨contains_of_given hgiven, hmem⟩
      have hone : (unlisted s accounts).count id = 1 :=
        List.count_eq_one_of_mem (s.outcomes.nodup_keys.filter _) hin
      rw [List.count_eq_zero_of_not_mem hmem, hone]
      rfl
  · have hnot : ∀ l : List String, (l.filter (given s only)).count id = 0 := by
      intro l
      exact List.count_eq_zero_of_not_mem fun h => hgiven (List.mem_filter.1 h).2
    rw [if_neg hgiven, hnot, hnot]

/-! ### What the monitor would list -/

/-- The roster that has loaded the list and merged the snapshot. -/
def polled (s : Snapshot) (accounts : List Account) : Roster :=
  ((Roster.empty.replace accounts).1.reconcile s).1

/-- The rows that the monitor would list: of the accounts of its roster that the snapshot speaks of,
and under `-` of the ids that its roster does not have. -/
def boardRows (s : Snapshot) (accounts : List Account) (only : Option Status) : List StatusRow :=
  (polled s accounts).rows.filterMap
      (fun x => if s.outcomes.contains x.1.id then of? only x.1.id x.1.name x.2 else none) ++
    (s.outcomes.keys.filter fun id => !(polled s accounts).contains id).filterMap fun id =>
      from? s only id "-"

theorem accounts_polled (s : Snapshot) (accounts : List Account) :
    (polled s accounts).accounts = firsts accounts :=
  (Roster.accounts_reconcile ..).trans (Roster.accounts_replace ..)

theorem state?_polled (s : Snapshot) (accounts : List Account) (id : String) :
    (polled s accounts).state? id = if id ∈ accounts.map (·.id) then
      some (Roster.mergeOptional .ready (s.outcomes.get? id)) else none := by
  rw [polled, Roster.state?_reconcile, Roster.state?_replace]
  split <;> rfl

theorem mem_of_mem_firsts {a : Account} (h : a ∈ firsts accounts) : a.id ∈ accounts.map (·.id) := by
  rw [← Roster.accounts_replace .empty] at h
  exact (Roster.contains_replace ..).1 ((Roster.consistent_replace ..).sound _ |>.2 ⟨a, h, rfl⟩)

/-- **The rows of the monitor are those of the first accounts with their ids**, and of the ids that
are not listed. -/
theorem boardRows_eq (s : Snapshot) (accounts : List Account) (only : Option Status) :
    boardRows s accounts only =
      (firsts accounts).filterMap (fun a => from? s only a.id a.name) ++
        (unlisted s accounts).filterMap fun id => from? s only id "-" := by
  rw [boardRows]
  congr 1
  · rw [Roster.rows, accounts_polled, List.filterMap_filterMap]
    refine List.filterMap_congr ?_
    intro a ha
    rw [state?_polled, if_pos (mem_of_mem_firsts ha), from?, Option.map_some, Option.bind_some,
      Table.contains_eq_isSome]
    cases s.outcomes.get? a.id <;> rfl
  · rw [unlisted]
    congr 2
    funext id
    rw [Roster.contains_eq_isSome, state?_polled]
    split <;> simp [*]

/-! ### Lists that name an id twice -/

/-- Which accounts are the first ones of their ids does not depend on what other ids are listed. -/
theorem filter_firsts (p : String → Bool) (l : List Account) :
    (firsts l).filter (fun a => p a.id) = firsts (l.filter fun a => p a.id) := by
  match l with
  | [] => rfl
  | a :: rest =>
    have ih := filter_firsts p (rest.filter fun b => b.id != a.id)
    rw [firsts_cons]
    by_cases ha : p a.id = true
    · have hpos : ∀ l : List Account, (a :: l).filter (fun a => p a.id) =
          a :: l.filter fun a => p a.id := by
        intro l
        exact List.filter_cons_of_pos ha
      rw [hpos, hpos, firsts_cons, ih, List.filter_filter, List.filter_filter]
      congr 3
      funext b
      exact Bool.and_comm ..
    · have hneg : ∀ l : List Account, (a :: l).filter (fun a => p a.id) =
          l.filter fun a => p a.id := by
        intro l
        exact List.filter_cons_of_neg ha
      rw [hneg, hneg, ih, List.filter_filter]
      congr 2
      funext b
      -- an account with the id of `a` is left out as `a` is
      by_cases hb : b.id = a.id
      · rw [hb, eq_false_of_ne_true ha]
        rfl
      · rw [bne_iff_ne.2 hb, Bool.and_true]
termination_by l.length
decreasing_by exact Nat.lt_succ_of_le (List.length_filter_le ..)

theorem firsts_of_nodup {l : List Account} (h : (l.map (·.id)).Nodup) : firsts l = l := by
  induction l with
  | nil => rfl
  | cons a rest ih =>
    obtain ⟨ha, hrest⟩ := List.nodup_cons.1 h
    have hall : rest.filter (fun b => b.id != a.id) = rest := by
      rw [List.filter_eq_self]
      intro b hb
      rw [bne_iff_ne]
      intro heq
      exact ha (List.mem_map.2 ⟨b, hb, heq⟩)
    rw [firsts_cons, hall, ih hrest]

/-- An account is under its own name if its id has a row and none that has one is listed twice. -/
theorem nameOf_of_nodup {a : Account} (h : ((accounts.map (·.id)).filter (given s only)).Nodup)
    (ha : a ∈ accounts) (hgiven : given s only a.id = true) : nameOf accounts a.id = a.name := by
  obtain ⟨l, m, rfl⟩ := List.append_of_mem ha
  rw [List.map_append, List.map_cons, List.filter_append, List.filter_cons_of_pos hgiven] at h
  obtain ⟨hnot, -⟩ := List.nodup_cons.1 (List.nodup_append.1 h).2.1
  refine nameOf_last ?_
  intro hmem
  exact hnot (List.mem_filter.2 ⟨hmem, hgiven⟩)

/-- **The monitor would list the same rows exactly if no id that has a row is listed twice.** -/
theorem tableRows_eq_boardRows_iff (s : Snapshot) (accounts : List Account)
    (only : Option Status) :
    tableRows s accounts only = boardRows s accounts only ↔
      ((accounts.map (·.id)).filter (given s only)).Nodup := by
  rw [tableRows_eq, boardRows_eq, List.append_left_inj]
  constructor
  · intro h
    have hdistinct : ((firsts accounts).map (·.id)).Nodup := by
      rw [← Roster.accounts_replace .empty]
      exact (Roster.consistent_replace ..).distinct
    rw [← map_id_filterMap s only (fun a : Account => a.id) fun a => nameOf accounts a.id, h,
      map_id_filterMap]
    exact hdistinct.filter _
  · intro h
    -- without the ids that have no row the list is its own first accounts
    have hfirsts : (firsts accounts).filter (fun a => given s only a.id) =
        accounts.filter fun a => given s only a.id := by
      rw [filter_firsts, firsts_of_nodup]
      rwa [List.filter_map] at h
    have hgiven : ∀ (l : List Account) (name : Account → String),
        l.filterMap (fun a => from? s only a.id (name a)) =
          (l.filter fun a => given s only a.id).filterMap fun a => from? s only a.id (name a) := by
      intro l name
      exact (filterMap_filter (fun _ h => h) (·.id) name l).symm
    rw [hgiven accounts, hgiven (firsts accounts), hfirsts]
    refine List.filterMap_congr ?_
    intro a ha
    rw [nameOf_of_nodup h (List.mem_filter.1 ha).1 (List.mem_filter.1 ha).2]

/-- What the table shows of a snapshot. -/
structure Tabulates (s : Snapshot) (accounts : List Account) (only : Option Status) : Prop where
  text : statusTable s accounts only =
    if s.outcomes.isEmpty then
      "engine " ++ (if s.running then "running" else "idle") ++ "\n" ++ "no results reported"
    else trimEnd ("engine " ++ (if s.running then "running" else "idle") ++ "\n" ++
      String.join ((tableRows s accounts only).map fun r => r.line ++ "\n"))
  /-- First come the listed accounts in the order of the list, and then the other ids, under `-`. -/
  rows : tableRows s accounts only =
    accounts.filterMap (fun a => from? s only a.id (nameOf accounts a.id)) ++
      (unlisted s accounts).filterMap fun id => from? s only id "-"
  ascending : (unlisted s accounts).Pairwise (· < ·)
  /-- The name of an id is the one that it has where it is listed last. -/
  name : ∀ l a m, accounts = l ++ a :: m → a.id ∉ m.map (·.id) → nameOf accounts a.id = a.name
  /-- A row shows what an outcome makes of an account that was pending, and it is asked for. -/
  state : ∀ r ∈ tableRows s accounts only, ∃ o, s.outcomes.get? r.id = some o ∧
    only.all (· == r.status) = true ∧ ∀ p : Progress, p.status = .pending →
      (merge p o).1.status = r.status ∧ (merge p o).1.message = r.message
  /-- An id whose outcome is asked for has as many rows as it is listed, and one if it is not. -/
  count : ∀ id, ((tableRows s accounts only).map (·.id)).count id =
    if given s only id then max 1 ((accounts.map (·.id)).count id) else 0
  /-- The monitor would list the same rows exactly if no id that has a row is listed twice. -/
  agrees : tableRows s accounts only = boardRows s accounts only ↔
    ((accounts.map (·.id)).filter (given s only)).Nodup

/-- **What the table shows**, for every snapshot, list and filter.  It has the rows that the monitor
would list, in that order, unless the list names an id twice: then the account has as many rows, all
under the name that it is given last. -/
theorem statusTable_tabulates (s : Snapshot) (accounts : List Account) (only : Option Status) :
    Tabulates s accounts only := by
  refine ⟨statusTable_eq .., tableRows_eq .., ?_, ?_, ?_, count_tableRows s accounts only,
    tableRows_eq_boardRows_iff ..⟩
  · exact (List.pairwise_map.2 s.outcomes.ordered).filter _
  · rintro l a m rfl h
    exact nameOf_last h
  · intro r hr
    obtain ⟨id, -, hid⟩ := List.mem_filterMap.1 hr
    exact outcome_of_from? hid

/-- **An account that is listed twice has two rows, with the wrong name.**  The roster keeps the
account that is listed first, and its name. -/
theorem statusTable_repeats :
    let s : Snapshot := ⟨true, .ofList [("a", ⟨true, true, "done", none⟩)]⟩
    let accounts : List Account := [⟨"a", "first"⟩, ⟨"a", "second"⟩]
    boardRows s accounts none = [⟨"a", "first", .success, "done"⟩] ∧
      tableRows s accounts none =
        [⟨"a", "second", .success, "done"⟩, ⟨"a", "second", .success, "done"⟩] ∧
      statusTable s accounts none = "engine running\n" ++
        "a              second           success  done\n" ++
        "a              second           success  done" := by
  decide +kernel

end Overseer.Console
