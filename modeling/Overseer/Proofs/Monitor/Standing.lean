import Overseer.Proofs.Monitor.Board
import Overseer.Proofs.Monitor.Roster

/-!
# Where an account stands in a run

The progress of an account during a run has a closed form (`standing`): it is determined by the
outcomes for the account in the answers to questions of this run, in their order, and by nothing
else.  `progress_in_run` says so for every sequence of operations that stays within the run:
answers of any run, log events, the engine's word on the start, requests to stop, a forced end,
and loads, starts and rollbacks that are refused.
-/

namespace Overseer.Monitor

open Overseer.Batch Overseer.Time

/-- An operation on a board. -/
inductive BoardOp where
  /-- The answer to a question that was put in a run. -/
  | poll (epoch : Nat) (s : Snapshot)
  | log (x : LogEvent) (at_ : Moment)
  /-- The engine has taken the start of a run. -/
  | acknowledge (epoch : Nat)
  /-- The engine has refused the start of a run. -/
  | rollback (epoch : Nat) (reason : String)
  | stop
  | forceIdle
  | start
  | load (accounts : List Account)

/-- The operation is the answer to a question. -/
def BoardOp.isPoll : BoardOp → Bool
  | .poll .. => true
  | _ => false

/-- What the engine answered, if the operation is the answer to a question of a run. -/
def BoardOp.answer? (epoch : Nat) : BoardOp → Option Snapshot
  | .poll e s => if e = epoch then some s else none
  | _ => none

namespace Board

/-- The board after an operation that stays within the run: there is none for a load, a start or
a rollback that is not refused. -/
def within (b : Board) : BoardOp → Option Board
  | .poll e s => some ((b.applyPoll e s).elim b (·.1))
  | .log x at_ => some (b.ingest x at_).1
  | .acknowledge e => some (b.acknowledge e).1
  | .rollback e reason => if (b.rollback e reason).2 then none else some (b.rollback e reason).1
  | .stop => some b.beginStop.1
  | .forceIdle => some b.forceIdle.1
  | .start =>
    match b.beginRun with
    | .ok _ => none
    | .error _ => some b
  | .load accounts =>
    match b.load accounts with
    | .ok _ => none
    | .error _ => some b

/-- The board after operations that stay within the run. -/
def throughout (b : Board) : List BoardOp → Option Board
  | [] => some b
  | op :: rest => (b.within op).bind fun b => b.throughout rest

end Board

/-- The outcomes for an account in the answers to questions of one run. -/
def outcomesIn (epoch : Nat) (id : String) (ops : List BoardOp) : List Outcome :=
  (ops.filterMap (·.answer? epoch)).filterMap (·.outcomes.get? id)

/-- Where an account stands after outcomes in order: as the last finished one says, with its
detail if that is a success; before any is finished it is being worked on, and before there is any
it is pending. -/
def standing (os : List Outcome) : Progress :=
  match (os.filter (·.finished)).getLast?, os.getLast? with
  | some o, _ =>
    if o.success then ⟨.success, o.message, o.detail⟩ else ⟨.failed, o.message, none⟩
  | none, some o => ⟨.running, o.message, none⟩
  | none, none => .pending

/-! ### The closed form -/

theorem terminal_standing (os : List Outcome) :
    (standing os).status.terminal = os.any (·.finished) := by
  unfold standing
  cases hf : (os.filter (·.finished)).getLast? with
  | some o =>
    have hmem := List.mem_filter.1 (List.mem_of_getLast? hf)
    have hany : os.any (·.finished) = true := List.any_eq_true.2 ⟨o, hmem⟩
    cases h : o.success <;> simp [Status.terminal, hany, h]
  | none =>
    have hnil : os.any (·.finished) = false := by
      have := List.filter_eq_nil_iff.1 (List.getLast?_eq_none_iff.1 hf)
      simpa using this
    rw [hnil]
    cases os.getLast? <;> rfl

/-- **One outcome more**: merging it into the closed form gives the closed form. -/
theorem standing_append (os : List Outcome) (o : Outcome) :
    standing (os ++ [o]) = (merge (standing os) o).1 := by
  rw [merge_fst, behind, terminal_standing]
  cases hf : o.finished with
  | true =>
    cases hs : o.success <;>
      simp [standing, progressOf, Outcome.status, hf, hs]
  | false =>
    have hfilter : (os ++ [o]).filter (·.finished) = os.filter (·.finished) := by simp [hf]
    cases hany : os.any (·.finished) with
    | true =>
      -- a finished outcome stays the last finished one
      obtain ⟨x, hx⟩ : ∃ x, (os.filter (·.finished)).getLast? = some x := by
        obtain ⟨y, hy, hyf⟩ := List.any_eq_true.1 hany
        have hne : os.filter (·.finished) ≠ [] :=
          List.ne_nil_of_mem (List.mem_filter.2 ⟨hy, hyf⟩)
        exact ⟨_, List.getLast?_eq_some_getLast hne⟩
      simp [standing, hfilter, hx]
    | false =>
      have hnil : os.filter (·.finished) = [] :=
        List.filter_eq_nil_iff.2 fun x hx => by simpa using List.any_eq_false.1 hany x hx
      simp [standing, hfilter, hnil, progressOf, Outcome.status, hf]

theorem outcomesIn_append (e : Nat) (id : String) (a b : List BoardOp) :
    outcomesIn e id (a ++ b) = outcomesIn e id a ++ outcomesIn e id b := by
  simp only [outcomesIn, List.filterMap_append]

/-! ### One operation -/

namespace Board

variable {b b' : Board}

theorem Gated.polled (hg : b.Gated) (e : Nat) (s : Snapshot) :
    ((b.applyPoll e s).elim b (·.1)).Gated ∧ ((b.applyPoll e s).elim b (·.1)).epoch = b.epoch ∧
      ((b.applyPoll e s).elim b (·.1)).roster =
        ((BoardOp.poll e s).answer? b.epoch).elim b.roster fun s => (b.roster.reconcile s).1 := by
  by_cases he : e = b.epoch
  · rw [applyPoll_current s he, Option.elim_some, BoardOp.answer?, if_pos he, Option.elim_some]
    exact ⟨hg.onRoster _, rfl, onRoster_roster ..⟩
  · rw [applyPoll_other s he, Option.elim_none, BoardOp.answer?, if_neg he, Option.elim_none]
    exact ⟨hg, rfl, rfl⟩

theorem Gated.ingested (hg : b.Gated) (x : LogEvent) (at_ : Moment) :
    (b.ingest x at_).1.Gated ∧ (b.ingest x at_).1.epoch = b.epoch ∧
      (b.ingest x at_).1.roster = b.roster := by
  by_cases hp : x.closing = false ∨ b.lifecycle = .idle
  · rw [ingest_plain hp]
    exact ⟨hg.logged x at_, rfl, rfl⟩
  -- a closing message ends the run now, or is held until the start is answered
  · obtain ⟨hx, hl⟩ := not_or.1 hp
    have hx : x.closing = true := by simpa using hx
    cases ha : b.awaiting with
    | some e =>
      rw [ingest_held hx hl ha]
      exact ⟨(hg.logged x at_).holding ha, rfl, rfl⟩
    | none =>
      rw [ingest_closing hg hx hl ha]
      exact ⟨gated_ended _, rfl, rfl⟩

theorem Gated.acknowledged (hg : b.Gated) (e : Nat) :
    (b.acknowledge e).1.Gated ∧ (b.acknowledge e).1.epoch = b.epoch ∧
      (b.acknowledge e).1.roster = b.roster := by
  by_cases ha : b.awaiting = some e
  · cases hh : b.held with
    | true =>
      rw [acknowledge_held hg ha hh]
      exact ⟨gated_ended _, rfl, rfl⟩
    | false =>
      rw [acknowledge_awaited ha hh]
      exact ⟨gated_of_awaiting_eq_none rfl hh, rfl, rfl⟩
  · rw [acknowledge_other ha]
    exact ⟨hg, rfl, rfl⟩

theorem Gated.of_rollback (hg : b.Gated) {e : Nat} {reason : String}
    (h : (b.rollback e reason).2 = false) : (b.rollback e reason).1 = b := by
  by_cases hc : e ≠ b.epoch ∨ b.lifecycle = .idle
  · rw [rollback_other hg hc]
  · obtain ⟨he, hl⟩ := not_or.1 hc
    rw [rollback_current hg (Decidable.not_not.1 he) hl] at h
    cases h

theorem Gated.stopped (hg : b.Gated) :
    b.beginStop.1.Gated ∧ b.beginStop.1.epoch = b.epoch ∧ b.beginStop.1.roster = b.roster := by
  cases hl : b.lifecycle with
  | idle =>
    rw [beginStop_idle hl]
    exact ⟨hg, rfl, rfl⟩
  | running =>
    rw [beginStop_running hl]
    exact ⟨gated_stopping hg, rfl, rfl⟩
  | stopping =>
    rw [beginStop_stopping hl]
    exact ⟨hg, rfl, rfl⟩

theorem Gated.forced (hg : b.Gated) :
    b.forceIdle.1.Gated ∧ b.forceIdle.1.epoch = b.epoch ∧ b.forceIdle.1.roster = b.roster := by
  by_cases hl : b.lifecycle = .idle
  · rw [forceIdle_idle hg hl]
    exact ⟨hg, rfl, rfl⟩
  · rw [forceIdle_active hl]
    exact ⟨gated_ended _, rfl, rfl⟩

/-- What stays within the run keeps the gate in order and the number of the run, and only an answer
to a question of this run changes the roster. -/
theorem Gated.within (hg : b.Gated) {op : BoardOp} (h : b.within op = some b') :
    b'.Gated ∧ b'.epoch = b.epoch ∧
      b'.roster = (op.answer? b.epoch).elim b.roster fun s => (b.roster.reconcile s).1 := by
  cases op with
  | poll e s =>
    obtain rfl := Option.some.inj h
    exact hg.polled e s
  | log x at_ =>
    obtain rfl := Option.some.inj h
    exact hg.ingested x at_
  | acknowledge e =>
    obtain rfl := Option.some.inj h
    exact hg.acknowledged e
  | stop =>
    obtain rfl := Option.some.inj h
    exact hg.stopped
  | forceIdle =>
    obtain rfl := Option.some.inj h
    exact hg.forced
  | rollback e reason =>
    simp only [Board.within] at h
    split at h
    · cases h
    · next hr =>
      obtain rfl := Option.some.inj h
      rw [hg.of_rollback (Bool.eq_false_iff.2 hr)]
      exact ⟨hg, rfl, rfl⟩
  | start | load =>
    simp only [Board.within] at h
    split at h
    · cases h
    · obtain rfl := Option.some.inj h
      exact ⟨hg, rfl, rfl⟩

/-! ### A run -/

theorem mergeOptional_standing (os : List Outcome) (o : Option Outcome) :
    Roster.mergeOptional (standing os) o = standing (os ++ o.toList) := by
  cases o with
  | none => rw [Option.toList_none, List.append_nil, Roster.mergeOptional]
  | some o => exact (standing_append os o).symm

theorem outcomesIn_singleton (e : Nat) (id : String) (op : BoardOp) :
    outcomesIn e id [op] = ((op.answer? e).bind (·.outcomes.get? id)).toList := by
  cases h : op.answer? e with
  | none => simp [outcomesIn, h]
  | some s => cases hs : s.outcomes.get? id <;> simp [outcomesIn, h, hs]

theorem Gated.standing_within (hg : b.Gated) {op : BoardOp} (h : b.within op = some b')
    {id : String} {os : List Outcome} (hs : b.roster.state? id = some (standing os)) :
    b'.roster.state? id = some (standing (os ++ outcomesIn b.epoch id [op])) := by
  obtain ⟨-, -, hr⟩ := hg.within h
  rw [hr, outcomesIn_singleton]
  cases op.answer? b.epoch with
  | none => simpa using hs
  | some s =>
    rw [Option.elim_some, Roster.state?_reconcile, hs, Option.map_some, mergeOptional_standing,
      Option.bind_some]

theorem Gated.standing_throughout (hg : b.Gated) {ops : List BoardOp}
    (h : b.throughout ops = some b') {id : String} {os : List Outcome}
    (hs : b.roster.state? id = some (standing os)) :
    b'.roster.state? id = some (standing (os ++ outcomesIn b.epoch id ops)) := by
  induction ops generalizing b os with
  | nil =>
    obtain rfl := Option.some.inj h
    rw [hs, outcomesIn, List.filterMap_nil, List.filterMap_nil, List.append_nil]
  | cons op rest ih =>
    obtain ⟨m, hm, hrest⟩ := Option.bind_eq_some_iff.1 h
    obtain ⟨hgm, hem, -⟩ := hg.within hm
    have hsm := ih hgm hrest (hg.standing_within hm hs)
    rwa [hem, List.append_assoc, ← outcomesIn_append, List.singleton_append] at hsm

theorem throughout_polls (b : Board) {ops : List BoardOp} (h : ∀ op ∈ ops, op.isPoll) :
    ∃ b', b.throughout ops = some b' := by
  induction ops generalizing b with
  | nil => exact ⟨b, rfl⟩
  | cons op rest ih =>
    cases op with
    | poll e s => exact ih _ fun op hop => h op (List.mem_cons_of_mem _ hop)
    | _ => exact absurd (h _ List.mem_cons_self) (by simp [BoardOp.isPoll])

theorem outcomesIn_filter_isPoll (e : Nat) (id : String) (ops : List BoardOp) :
    outcomesIn e id (ops.filter (·.isPoll)) = outcomesIn e id ops := by
  have h : ∀ op : BoardOp, (if op.isPoll then op.answer? e else none) = op.answer? e := by
    intro op
    cases op <;> rfl
  simp only [outcomesIn, List.filterMap_filter, h]

/-- **What the answers of a run add up to.**  Whatever else happens in a run, every account stands
as the outcomes for it in the answers to questions of this run say; an account that is done is
never pending or worked on again; and the answers alone lead to the same progress. -/
theorem progress_in_run {b₀ b b' : Board} {ops : List BoardOp} (h₀ : b₀.beginRun = .ok b)
    (h : b.throughout ops = some b') {id : String} (hid : b.roster.contains id = true) :
    b'.roster.state? id = some (standing (outcomesIn b.epoch id ops)) ∧
      (∀ {before after : List BoardOp} {m : Board} {p : Progress}, ops = before ++ after →
        b.throughout before = some m → m.roster.state? id = some p → p.status.terminal = true →
          ∃ q, b'.roster.state? id = some q ∧ q.status.terminal = true) ∧
      ∃ b'', b.throughout (ops.filter (·.isPoll)) = some b'' ∧
        b''.roster.state? id = b'.roster.state? id := by
  obtain ⟨-, -, rfl⟩ := beginRun_eq_ok_iff.1 h₀
  have hpending : b₀.begun.roster.state? id = some (standing []) := by
    obtain ⟨p, hp⟩ := Roster.contains_iff.1 hid
    have hreset := Roster.state?_resetAll b₀.roster .pending id
    obtain ⟨_, h₁, -⟩ := Option.map_eq_some_iff.1 (hreset.symm.trans hp)
    exact hreset.trans (by rw [h₁]; rfl)
  -- a run begins with every account pending, which is the closed form of no outcome
  have hform : ∀ {l : List BoardOp} {m : Board}, b₀.begun.throughout l = some m →
      m.roster.state? id = some (standing (outcomesIn b₀.begun.epoch id l)) :=
    fun hl => (gated_begun b₀).standing_throughout hl hpending
  refine ⟨hform h, fun {before after m p} hops hm hp hdone => ?_, ?_⟩
  · refine ⟨_, hform h, ?_⟩
    rw [hform hm] at hp
    obtain rfl := Option.some.inj hp
    rw [terminal_standing] at hdone ⊢
    rw [hops, outcomesIn_append, List.any_append, hdone, Bool.true_or]
  · obtain ⟨b'', hb⟩ := throughout_polls b₀.begun
      fun op hop => (List.mem_filter.1 hop).2
    refine ⟨b'', hb, ?_⟩
    rw [hform hb, hform h, outcomesIn_filter_isPoll]

/-- A success stays one through a closing message, a later answer that the account is being worked
on, and an answer to a question of another run. -/
theorem progress_in_run_of_success :
    let b := (Board.initial .default).onRoster ⟨[⟨"a", "A"⟩], Table.empty.insert "a" .ready⟩
    let answer (o : Outcome) : Snapshot := ⟨true, Table.empty.insert "a" o⟩
    let ops : List BoardOp := [.acknowledge 1, .poll 1 (answer ⟨true, true, "done", some "x"⟩),
      .log ⟨systemId, "All tasks completed", .info, none⟩ ⟨0, 0⟩,
      .poll 1 (answer ⟨false, false, "again", none⟩),
      .poll 0 (answer ⟨true, false, "lost", none⟩)]
    ∃ b', b.begun.throughout ops = some b' ∧
      b'.roster.state? "a" = some ⟨.success, "done", some "x"⟩ := by
  intro b answer ops
  have h₀ : b.beginRun = .ok b.begun := rfl
  obtain ⟨b', h⟩ : ∃ b', b.begun.throughout ops = some b' := ⟨_, rfl⟩
  refine ⟨b', h, (progress_in_run h₀ h rfl).1.trans ?_⟩
  rfl

end Board

end Overseer.Monitor
