import Mathlib.Data.List.Induction
import Overseer.Proofs.Monitor.Operations

/-!
# The gate of a start

A run passes a gate: until the engine has taken its start, a closing message is held back.  The
number that is waited for, the message that is held and where the run stands are kept apart, and
eight operations change them, so what ties them together is said of every sequence of operations.

* `Board.Gated.next_awaiting` : a start is waited for because it was just made, or because it was
  waited for before; only in between can a closing message be held.
* `Board.held_after_begun` : while the start of a run is waited for, what is held is what has come
  since the run began.
* `Board.start_gate` : **the gate is in order after any operations**, and the engine's word ends a
  run exactly if a closing message has come since that run began.
-/

namespace Overseer.Monitor

open Overseer.Batch Overseer.Time

/-- The operation brings a closing message. -/
def BoardOp.closing : BoardOp → Bool
  | .log x _ => x.closing
  | _ => false

namespace Board

variable {b : Board} {op : BoardOp} {e : Nat}

/-! ### One operation -/

/-- A log event lets no start be waited for; a closing message is held while one is. -/
theorem Gated.ingest_awaiting (hg : b.Gated) (x : LogEvent) (at_ : Moment)
    (h : (b.ingest x at_).1.awaiting = some e) :
    b.awaiting = some e ∧ (b.ingest x at_).1.held = (b.held || x.closing) := by
  by_cases hp : x.closing = false ∨ b.lifecycle = .idle
  · rw [ingest_plain hp] at h ⊢
    have ha : b.awaiting = some e := h
    have hx : x.closing = false := hp.resolve_right (hg.active ha)
    exact ⟨ha, by simp [hx]⟩
  · obtain ⟨hx, hl⟩ := not_or.1 hp
    have hx : x.closing = true := by simpa using hx
    cases ha : b.awaiting with
    | some n =>
      rw [ingest_held hx hl ha] at h ⊢
      exact ⟨ha.symm.trans h, by simp [hx]⟩
    | none =>
      rw [ingest_closing hg hx hl ha] at h
      cases h

/-- A start is still waited for only if the engine's word is about another one. -/
theorem Gated.acknowledge_awaiting (hg : b.Gated) (n : Nat)
    (h : (b.acknowledge n).1.awaiting = some e) : (b.acknowledge n).1 = b := by
  by_cases ha : b.awaiting = some n
  · cases hh : b.held with
    | true =>
      rw [acknowledge_held hg ha hh] at h
      cases h
    | false =>
      rw [acknowledge_awaited ha hh] at h
      cases h
  · rw [acknowledge_other ha]

theorem Gated.rollback_awaiting (hg : b.Gated) (n : Nat) (reason : String)
    (h : (b.rollback n reason).1.awaiting = some e) : (b.rollback n reason).1 = b := by
  by_cases hc : n ≠ b.epoch ∨ b.lifecycle = .idle
  · rw [rollback_other hg hc]
  · obtain ⟨hn, hl⟩ := not_or.1 hc
    rw [rollback_current hg (Decidable.not_not.1 hn) hl] at h
    cases h

theorem Gated.forceIdle_awaiting (hg : b.Gated) (h : b.forceIdle.1.awaiting = some e) :
    b.forceIdle.1 = b := by
  by_cases hl : b.lifecycle = .idle
  · rw [forceIdle_idle hg hl]
  · rw [forceIdle_active hl] at h
    cases h

theorem beginStop_gate (b : Board) :
    b.beginStop.1.awaiting = b.awaiting ∧ b.beginStop.1.held = b.held := by
  cases hl : b.lifecycle with
  | idle => simp [beginStop_idle hl]
  | running => simp [beginStop_running hl, stopping]
  | stopping => simp [beginStop_stopping hl]

theorem applyPoll_gate (b : Board) (n : Nat) (s : Snapshot) :
    ((b.applyPoll n s).elim b (·.1)).awaiting = b.awaiting ∧
      ((b.applyPoll n s).elim b (·.1)).held = b.held := by
  by_cases hn : n = b.epoch
  · simp [applyPoll_current s hn, onRoster]
  · simp [applyPoll_other s hn]

/-- **A start is waited for because it was just made or because it was waited for before.**  In the
second case a closing message is held if one was held or has just come. -/
theorem Gated.next_awaiting (hg : b.Gated) (h : (b.next op).awaiting = some e) :
    (op = .start ∧ ∃ b', b.beginRun = .ok b' ∧ b'.epoch = e) ∨
      (b.awaiting = some e ∧ (b.next op).held = (b.held || op.closing)) := by
  -- whatever leaves the board alone brings no closing message
  have same : op.closing = false → b.next op = b →
      b.awaiting = some e ∧ (b.next op).held = (b.held || op.closing) := by
    intro hx hb
    rw [hb] at h
    exact ⟨h, by rw [hb, hx, Bool.or_false]⟩
  cases op with
  | poll n s =>
    obtain ⟨ha, hh⟩ := applyPoll_gate b n s
    exact .inr ⟨ha.symm.trans h, hh.trans (Bool.or_false _).symm⟩
  | log x at_ =>
    rw [next] at h ⊢
    exact .inr (hg.ingest_awaiting x at_ h)
  | acknowledge n => exact .inr (same rfl (hg.acknowledge_awaiting n h))
  | rollback n reason => exact .inr (same rfl (hg.rollback_awaiting n reason h))
  | stop =>
    obtain ⟨ha, hh⟩ := beginStop_gate b
    exact .inr ⟨ha.symm.trans h, hh.trans (Bool.or_false _).symm⟩
  | forceIdle => exact .inr (same rfl (hg.forceIdle_awaiting h))
  | start =>
    cases hr : b.beginRun with
    | ok b' =>
      obtain ⟨-, -, rfl⟩ := beginRun_eq_ok_iff.1 hr
      simp only [next, hr] at h
      exact .inl ⟨rfl, _, rfl, Option.some.inj h⟩
    | error _ => exact .inr (same rfl (by simp only [next, hr]))
  | load accounts =>
    by_cases hl : b.lifecycle = .idle
    · simp only [next, load_idle hl] at h ⊢
      exact .inr ⟨h, by simp [BoardOp.closing]⟩
    · exact .inr (same rfl (by simp only [next, load_active hl]))

theorem Did.epoch_le {b' : Board} (hg : b.Gated) (h : b.Did op b') : b.epoch ≤ b'.epoch := by
  cases h with
  | within hw => exact Nat.le_of_eq (hg.within hw).2.1.symm
  | began => exact Nat.le_succ _
  | loaded | tookBack => exact Nat.le_refl _

theorem epoch_le_after (hg : b.Gated) (ops : List BoardOp) : b.epoch ≤ (b.after ops).epoch := by
  induction ops using List.reverseRecOn with
  | nil => exact Nat.le_refl _
  | append_singleton ops op ih =>
    have hops := gated_after hg ops
    rw [after_append]
    exact Nat.le_trans ih ((did_next hops op).epoch_le hops)

/-! ### The operations since a run began -/

/-- **While the start of a run is waited for**, a closing message is held exactly if one has come
since the run began. -/
theorem held_after_begun (b : Board) {mid : List BoardOp}
    (h : (b.begun.after mid).awaiting = some b.begun.epoch) :
    (b.begun.after mid).held = mid.any (·.closing) := by
  induction mid using List.reverseRecOn with
  | nil => rfl
  | append_singleton mid op ih =>
    have hg := gated_after (gated_begun b) mid
    rw [after_append] at h ⊢
    rcases hg.next_awaiting h with ⟨-, b', hr, he⟩ | ⟨ha, hh⟩
    · -- a later run has a larger number
      obtain ⟨-, -, rfl⟩ := beginRun_eq_ok_iff.1 hr
      have hle := epoch_le_after (gated_begun b) mid
      rw [begun_epoch] at he
      omega
    · rw [hh, ih ha, List.any_append, List.any_cons, List.any_nil, Bool.or_false]

theorem exists_start (hg : b.Gated) (hb : b.awaiting = none) {ops : List BoardOp}
    (h : (b.after ops).awaiting = some e) :
    ∃ pre mid b', ops = pre ++ .start :: mid ∧ (b.after pre).beginRun = .ok b' ∧ b'.epoch = e := by
  induction ops using List.reverseRecOn with
  | nil => exact absurd (hb.symm.trans h) nofun
  | append_singleton ops op ih =>
    rw [after_append] at h
    rcases (gated_after hg ops).next_awaiting h with ⟨rfl, b', hr, he⟩ | ⟨ha, -⟩
    · exact ⟨ops, [], b', rfl, hr, he⟩
    · obtain ⟨pre, mid, b', rfl, hr, he⟩ := ih ha
      exact ⟨pre, mid ++ [op], b', by simp, hr, he⟩

/-- A run began in the course of the operations, with this number, and a closing message came after
that. -/
def ClosedSince (b : Board) (ops : List BoardOp) (e : Nat) : Prop :=
  ∃ pre mid b', ops = pre ++ .start :: mid ∧ (b.after pre).beginRun = .ok b' ∧ b'.epoch = e ∧
    ∃ op ∈ mid, op.closing = true

theorem after_start {b' : Board} {pre mid : List BoardOp} (hr : (b.after pre).beginRun = .ok b') :
    b.after (pre ++ .start :: mid) = b'.after mid := by
  simp only [after, List.foldl_append, List.foldl_cons] at hr ⊢
  rw [next, hr]

/-- While a start is waited for, a closing message is held exactly if one has come since then. -/
theorem held_iff_closedSince (hg : b.Gated) (hb : b.awaiting = none) {ops : List BoardOp}
    (h : (b.after ops).awaiting = some e) :
    (b.after ops).held = true ↔ b.ClosedSince ops e := by
  have since : ∀ {pre mid b'}, ops = pre ++ .start :: mid → (b.after pre).beginRun = .ok b' →
      b'.epoch = e → (b.after ops).held = mid.any (·.closing) := by
    rintro pre mid b' rfl hr rfl
    rw [after_start hr] at h ⊢
    obtain ⟨-, -, rfl⟩ := beginRun_eq_ok_iff.1 hr
    exact held_after_begun _ h
  constructor
  · intro hh
    obtain ⟨pre, mid, b', hops, hr, he⟩ := exists_start hg hb h
    rw [since hops hr he] at hh
    exact ⟨pre, mid, b', hops, hr, he, List.any_eq_true.1 hh⟩
  · rintro ⟨pre, mid, b', hops, hr, he, hc⟩
    rw [since hops hr he]
    exact List.any_eq_true.2 hc

/-! ### The gate -/

/-- The engine's word ends a run exactly if it is waited for and a closing message is held, and
then it does. -/
theorem Gated.acknowledge_eq_true_iff (hg : b.Gated) :
    (b.acknowledge e).2 = true ↔ b.awaiting = some e ∧ b.held = true := by
  by_cases ha : b.awaiting = some e
  · cases hh : b.held with
    | true => simp [acknowledge_held hg ha hh, ha]
    | false => simp [acknowledge_awaited ha hh]
  · simp [acknowledge_other ha, ha]

/-- How the gate stands on a board, after the operations that led there. -/
structure Guarded (set : Settings) (ops : List BoardOp) (b : Board) : Prop where
  /-- The start that is waited for is that of the current run, and the run is under way. -/
  awaited : ∀ e, b.awaiting = some e →
    e = b.epoch ∧ (b.lifecycle = .running ∨ b.lifecycle = .stopping)
  /-- A closing message is held only while a start is waited for. -/
  held : b.held = true → ∃ e, b.awaiting = some e
  /-- Without a run nothing is waited for and nothing is held. -/
  idle : b.lifecycle = .idle → b.awaiting = none ∧ b.held = false
  /-- The engine's word that it has taken a start ends the run at once exactly if that start is
  waited for and a closing message has come since that run began. -/
  ends : ∀ e, (b.acknowledge e).2 = true ↔
    b.awaiting = some e ∧ (initial set).ClosedSince ops e
  /-- When it does, a run was under way, and there is none afterwards. -/
  ended : ∀ e, (b.acknowledge e).2 = true →
    b.lifecycle ≠ .idle ∧ (b.acknowledge e).1.lifecycle = .idle

/-- **The gate is in order after any operations**, whatever the epochs that they are given. -/
theorem start_gate (set : Settings) (ops : List BoardOp) :
    Guarded set ops ((initial set).after ops) := by
  have hg := gated_after (gated_initial set) ops
  refine ⟨fun e ha => ⟨hg.current ha, ?_⟩, hg.awaited, fun hl => ?_, fun e => ?_, fun e he => ?_⟩
  · have hl := hg.active ha
    cases h : ((initial set).after ops).lifecycle with
    | idle => exact absurd h hl
    | running => exact .inl rfl
    | stopping => exact .inr rfl
  · have ha := hg.awaiting_eq_none hl
    exact ⟨ha, hg.held_eq_false ha⟩
  · rw [hg.acknowledge_eq_true_iff]
    exact and_congr_right fun ha => held_iff_closedSince (gated_initial set) rfl ha
  · obtain ⟨ha, hh⟩ := hg.acknowledge_eq_true_iff.1 he
    refine ⟨hg.active ha, ?_⟩
    rw [acknowledge_held hg ha hh]
    rfl

/-- A closing message that came before the start of the first run was refused does not end the
second run, and one that comes after the second start does. -/
example :
    let line : BoardOp := .log ⟨systemId, "All tasks completed", .info, none⟩ ⟨0, 0⟩
    let ops : List BoardOp := [.load [⟨"a", "A"⟩], .start, line, .rollback 1 "no", .start]
    (((initial .default).after ops).acknowledge 2).2 = false ∧
      (((initial .default).after (ops ++ [line])).acknowledge 1).2 = false ∧
      (((initial .default).after (ops ++ [line])).acknowledge 2).2 = true := by
  decide +kernel

end Board

end Overseer.Monitor
