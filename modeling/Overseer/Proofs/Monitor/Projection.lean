import Overseer.Proofs.Monitor.Details
import Overseer.Proofs.Monitor.Journal

/-!
# A view is its board

A view is made of three parts of a board that are kept apart: the list of accounts, the progress by
id, and the journal.  The rows follow the list and pass over an account without a progress; whether
an id is known is a matter of the progress alone.  After any operations the roster is consistent
(`Board.consistent_after`), so the list and the progress are about the same ids, and none is passed
over.

* `View.Faithful` : what a view owes to its board.
* `Board.accounts_after` : the accounts are those of the last load, repetitions left out.
* `Board.logged_after` : what the journal holds or has dropped came since the last run began.
* `Board.view_faithful` : **a view shows its board as it is**, after any operations.
-/

namespace Overseer.Monitor

open Overseer.Batch Overseer.Time

/-! ### Counters -/

namespace Counters

theorem foldl_add (c : Counters) (l : List Status) :
    l.foldl add c = ⟨c.total + l.length, c.pending + l.count .pending,
      c.running + l.count .running, c.succeeded + l.count .success, c.failed + l.count .failed,
      c.processed⟩ := by
  induction l generalizing c with
  | nil => rfl
  | cons s rest ih =>
    rw [List.foldl_cons, ih]
    cases s <;> simp [add] <;> omega

theorem tally_eq (l : List Status) :
    tally l = ⟨l.length, l.count .pending, l.count .running, l.count .success, l.count .failed,
      l.length - l.count .pending⟩ := by
  simp [tally, foldl_add, zero]

theorem count_statuses (l : List Status) :
    l.count .pending + l.count .running + l.count .success + l.count .failed = l.length := by
  induction l with
  | nil => rfl
  | cons s rest ih => cases s <;> simp <;> omega

end Counters

/-! ### Rows -/

/-- In a roster in order no account is passed over. -/
theorem Roster.Sound.rows_eq_map {r : Roster} (h : r.Sound) :
    r.rows = r.accounts.map fun a => (a, (r.state? a.id).getD .ready) := by
  refine List.filterMap_eq_map_iff_forall_eq_some.2 ?_
  intro a ha
  obtain ⟨p, hp⟩ := contains_iff.1 ((h a.id).2 ⟨a, ha, rfl⟩)
  rw [hp, Option.map_some, Option.getD_some]

/-- What a view owes to its board. -/
structure View.Faithful (b : Board) (v : View) : Prop where
  lifecycle : v.lifecycle = b.lifecycle
  epoch : v.epoch = b.epoch
  /-- One row for each account, in their order, with its name and how it stands. -/
  rows : List.Forall₂ (fun a (r : Row) => r.id = a.id ∧ r.name = a.name ∧
    b.roster.state? a.id = some ⟨r.status, r.message, r.detail⟩) b.roster.accounts v.rows
  distinct : (v.rows.map (·.id)).Nodup
  total : v.counters.total = v.rows.length
  size : v.counters.total = b.roster.size
  partition : v.counters.pending + v.counters.running + v.counters.succeeded + v.counters.failed =
    v.counters.total
  /-- Nothing is cut off where the pending ones are taken away. -/
  processed : v.counters.processed + v.counters.pending = v.counters.total
  busy : v.counters.processed = v.rows.countP fun r => r.status != .pending
  /-- A row is found for the ids that are listed. -/
  known : ∀ id, (v.row? id).isSome = b.roster.contains id
  found : ∀ {id r}, v.row? id = some r ↔ r ∈ v.rows ∧ r.id = id

namespace Board

variable {b b' : Board} {op : BoardOp}

theorem view_rows (h : b.roster.Sound) :
    b.view.rows = b.roster.accounts.map fun a =>
      Row.of a ((b.roster.state? a.id).getD .ready) := by
  rw [view, View.project, h.rows_eq_map, List.map_map]
  rfl

theorem view_ids (h : b.roster.Sound) :
    b.view.rows.map (·.id) = b.roster.accounts.map (·.id) := by
  rw [view_rows h, List.map_map]
  rfl

theorem view_counters (b : Board) : b.view.counters = .tally (b.view.rows.map (·.status)) := by
  rw [view, View.project, List.map_map]
  rfl

theorem forall₂_view_rows (h : b.roster.Sound) :
    List.Forall₂ (fun a (r : Row) => r.id = a.id ∧ r.name = a.name ∧
      b.roster.state? a.id = some ⟨r.status, r.message, r.detail⟩)
      b.roster.accounts b.view.rows := by
  rw [view_rows h, List.forall₂_map_right_iff, List.forall₂_same]
  intro a ha
  obtain ⟨p, hp⟩ := Roster.contains_iff.1 ((h a.id).2 ⟨a, ha, rfl⟩)
  rw [hp]
  exact ⟨rfl, rfl, rfl⟩

theorem length_view_rows (h : b.roster.Sound) : b.view.rows.length = b.roster.size := by
  rw [view_rows h, List.length_map, Roster.size]

theorem isSome_view_row? (h : b.roster.Sound) (id : String) :
    (b.view.row? id).isSome = b.roster.contains id := by
  refine Bool.eq_iff_iff.2 ?_
  have hmem : (∃ r ∈ b.view.rows, r.id = id) ↔ ∃ a ∈ b.roster.accounts, a.id = id := by
    simpa using congrArg (id ∈ ·) (view_ids h)
  rw [View.row?, List.find?_isSome, h id, ← hmem]
  simp

theorem view_row?_iff (h : (b.view.rows.map (·.id)).Nodup) {id : String} {r : Row} :
    b.view.row? id = some r ↔ r ∈ b.view.rows ∧ r.id = id := by
  constructor
  · intro hr
    exact ⟨List.mem_of_find?_eq_some hr, by simpa using List.find?_some hr⟩
  · rintro ⟨hr, hid⟩
    obtain ⟨r', hr'⟩ : ∃ r', b.view.row? id = some r' :=
      Option.isSome_iff_exists.1 (List.find?_isSome.2 ⟨r, hr, by simpa using hid⟩)
    -- there is only one row with the id
    have hid' : r'.id = id := by simpa using List.find?_some hr'
    have hsame :=
      List.inj_on_of_nodup_map h (List.mem_of_find?_eq_some hr') hr (hid'.trans hid.symm)
    rw [hr', hsame]

/-- **The view of a consistent board is faithful.** -/
theorem faithful_of_consistent (h : b.roster.Consistent) : b.view.Faithful b := by
  have hdistinct : (b.view.rows.map (·.id)).Nodup := view_ids h.sound ▸ h.distinct
  have hcounters := (view_counters b).trans (Counters.tally_eq _)
  have hsum := Counters.count_statuses (b.view.rows.map (·.status))
  have hpending : (b.view.rows.map (·.status)).count .pending =
      b.view.rows.countP fun r => r.status == .pending := List.countP_map ..
  have hsplit := List.length_eq_countP_add_countP (fun r : Row => r.status == .pending)
    (l := b.view.rows)
  rw [List.length_map] at hcounters hsum
  exact {
    lifecycle := rfl
    epoch := rfl
    rows := forall₂_view_rows h.sound
    distinct := hdistinct
    total := by rw [hcounters]
    size := by rw [hcounters, length_view_rows h.sound]
    partition := by simpa only [hcounters] using hsum
    processed := by
      simp only [hcounters]
      omega
    busy := by
      simp only [hcounters, hpending]
      rw [hsplit, Nat.add_sub_cancel_left]
      refine List.countP_congr ?_
      intro r _
      simp
    known := isSome_view_row? h.sound
    found := view_row?_iff hdistinct }

/-! ### What comes of operations -/

/-- The accounts that an operation loads, if it is not refused. -/
def loads? (b : Board) : BoardOp → Option (List Account)
  | .load accounts => (b.load accounts).toOption.map fun _ => accounts
  | _ => none

theorem loads?_of_within (h : b.within op = some b') : b.loads? op = none := by
  cases op with
  | load accounts =>
    simp only [within] at h
    split at h
    · cases h
    · next hr => rw [loads?, hr]; rfl
  | _ => rfl

theorem Did.accounts (hg : b.Gated) (h : b.Did op b') :
    b'.roster.accounts = ((b.loads? op).map firsts).getD b.roster.accounts := by
  cases h with
  | within hw =>
    rw [loads?_of_within hw, (hg.within hw).2.2]
    cases op.answer? b.epoch with
    | none => rfl
    | some s => exact Roster.accounts_reconcile ..
  | @loaded accounts hl =>
    have hloads : b.loads? (.load accounts) = some accounts := by
      rw [loads?, load_idle hl]
      rfl
    rw [hloads]
    exact Roster.accounts_replace ..
  | began | tookBack => rfl

theorem Did.consistent (hg : b.Gated) (h : b.Did op b') (hc : b.roster.Consistent) :
    b'.roster.Consistent := by
  cases h with
  | within hw =>
    rw [(hg.within hw).2.2]
    cases op.answer? b.epoch with
    | none => exact hc
    | some s => exact hc.next (.reconcile s)
  | began => exact hc.next (.resetAll .pending)
  | @loaded accounts => exact hc.next (.replace accounts)
  | @tookBack reason => exact hc.next (.setMessages (refusalMessage reason))

/-- **After any operations the roster is consistent.** -/
theorem consistent_after (set : Settings) (ops : List BoardOp) :
    ((initial set).after ops).roster.Consistent := by
  induction ops using List.reverseRecOn with
  | nil => exact ⟨Roster.sound_empty, List.nodup_nil⟩
  | append_singleton ops op ih =>
    have hg := gated_after (gated_initial set) ops
    rw [after_append]
    exact (did_next hg op).consistent hg ih

/-- The list of the last load that was not refused. -/
def listed (b : Board) (ops : List BoardOp) : List Account :=
  track (fun b l op => (b.loads? op).getD l) [] b ops

/-- **The accounts are those of the last load**, of several with one id the first. -/
theorem accounts_after (set : Settings) (ops : List BoardOp) :
    ((initial set).after ops).roster.accounts = firsts ((initial set).listed ops) := by
  induction ops using List.reverseRecOn with
  | nil => rfl
  | append_singleton ops op ih =>
    have hg := gated_after (gated_initial set) ops
    rw [after_append, (did_next hg op).accounts hg, listed, track_append, ← listed, ih]
    cases ((initial set).after ops).loads? op <;> rfl

end Board

/-- The log event that an operation brings. -/
def BoardOp.log? : BoardOp → Option LogEvent
  | .log x _ => some x
  | _ => none

namespace Board

variable {b b' : Board} {op : BoardOp}

/-- The log events since the last run began, or all if none did. -/
def loggedSince (b : Board) (ops : List BoardOp) : List LogEvent :=
  track (fun b l op => if b.begins op then [] else l ++ op.log?.toList) [] b ops

theorem journal_ingest (b : Board) (x : LogEvent) (at_ : Moment) :
    (b.ingest x at_).1.journal = b.journal.append x at_ := by
  simp only [ingest]
  split_ifs <;> rfl

/-- Only a run that begins and a log event have to do with the journal. -/
theorem journal_next (b : Board) {op : BoardOp} (hb : b.begins op = false) (hx : op.log? = none) :
    (b.next op).journal = b.journal := by
  cases op with
  | log x at_ => cases hx
  | start =>
    cases hr : b.beginRun with
    | error e => simp only [next, hr]
    | ok b' =>
      rw [begins, hr] at hb
      cases hb
  | load accounts =>
    by_cases hl : b.lifecycle = .idle
    · simp only [next, load_idle hl]
      rfl
    · simp only [next, load_active hl]
  | poll e s =>
    by_cases he : e = b.epoch
    · simp only [next, applyPoll_current s he]
      rfl
    · simp only [next, applyPoll_other s he]
      rfl
  | acknowledge e =>
    simp only [next, acknowledge]
    split_ifs <;> rfl
  | rollback e reason =>
    simp only [next, rollback]
    split_ifs <;> split <;> rfl
  | stop | forceIdle => rfl

/-- **What the journal holds or has dropped came since the last run began.** -/
theorem logged_after (set : Settings) (ops : List BoardOp) :
    1 ≤ ((initial set).after ops).journal.capacity ∧
      ((initial set).after ops).journal.count = ((initial set).loggedSince ops).length := by
  induction ops using List.reverseRecOn with
  | nil => exact ⟨Nat.le_max_right .., rfl⟩
  | append_singleton ops op ih =>
    rw [after_append, loggedSince, track_append, ← loggedSince]
    generalize (initial set).after ops = b at *
    obtain ⟨hc, ih⟩ := ih
    cases hb : b.begins op with
    | true =>
      cases op with
      | start =>
        cases hr : b.beginRun with
        | error e =>
          rw [begins, hr] at hb
          cases hb
        | ok b' =>
          obtain ⟨-, -, rfl⟩ := beginRun_eq_ok_iff.1 hr
          simp only [next, hr]
          exact ⟨hc, rfl⟩
      | _ => cases hb
    | false =>
      cases hx : op.log? with
      | none => simpa [journal_next b hb hx] using ⟨hc, ih⟩
      | some x =>
        cases op with
        | log x at_ =>
          cases hx
          rw [next, journal_ingest, Journal.count_append _ hc, ih]
          exact ⟨hc, by simp⟩
        | _ => cases hx

/-- **A view shows its board as it is.**  After any operations, with any epochs, answers and
accounts:

* there is one row for each account, in the order in which they were loaded, with its name and how
  it stands;
* the counters count the rows, whose statuses they divide among them;
* a row is found for the ids that are known, and for no others;
* the log lines that it counts are those since the last run began. -/
theorem view_faithful (set : Settings) (ops : List BoardOp) :
    ((initial set).after ops).view.Faithful ((initial set).after ops) ∧
      ((initial set).after ops).roster.accounts = firsts ((initial set).listed ops) ∧
      ((initial set).after ops).view.logLength + ((initial set).after ops).view.logEvicted =
        ((initial set).loggedSince ops).length :=
  ⟨faithful_of_consistent (consistent_after set ops), accounts_after set ops,
    (logged_after set ops).2⟩

/-- Of two accounts with one id the first is shown; the second answer is not, for it is about an
earlier run; the log line from before the run is forgotten. -/
example :
    let answer (o : Outcome) : Snapshot := ⟨true, Table.empty.insert "a" o⟩
    let v := ((initial .default).after [.load [⟨"b", "B"⟩, ⟨"a", "A"⟩, ⟨"b", "other"⟩],
      .log ⟨"a", "early", .info, none⟩ ⟨0, 0⟩, .start, .acknowledge 1,
      .poll 1 (answer ⟨false, false, "on it", none⟩), .log ⟨"a", "one", .info, none⟩ ⟨0, 0⟩,
      .poll 0 (answer ⟨true, true, "done", none⟩)]).view
    v.rows = [⟨"b", "B", .pending, "pending", none⟩, ⟨"a", "A", .running, "on it", none⟩] ∧
      v.counters = ⟨2, 1, 1, 0, 0, 1⟩ ∧ v.logLength + v.logEvicted = 1 := by decide +kernel

end Board

end Overseer.Monitor
