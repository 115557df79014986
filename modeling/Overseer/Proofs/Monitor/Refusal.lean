import Overseer.Proofs.Monitor.Calls
import Overseer.Proofs.Monitor.Ledger
import Overseer.Proofs.Monitor.Reloads

/-!
# A start that the engine refuses

Taking back a run writes the reason into the message of every account and leaves the rest of its
progress alone, so that all accounts end as pending rests on what came before: while the start of a
run is waited for, nobody has asked the engine for the status in this run, hence no answer can have
touched an account (`Course.unasked`).

* `Keeper.Step.asks` : the engine is asked about the current run, by the timer or once its start is
  waited for no more.
* `Course.unasked` : **a run whose start is waited for is as it began**, whatever else happened.
* `Course.refusal_leaves_all_pending` : what a refusal of the start leaves, and that the number of
  the run is not used again.
-/

namespace Overseer.Monitor

open Overseer.Batch Overseer.Time

/-- The call is a question for the status in run `n`. -/
def Ticket.isPoll (n : Nat) : Ticket → Bool
  | .poll m _ => m == n
  | _ => false

/-- How often the engine was asked for the status in run `n`. -/
def questions (n : Nat) (ps : List Passage) : Nat :=
  (ps.flatMap (·.calls)).countP (·.ticket.isPoll n)

theorem questions_append_singleton (n : Nat) (ps : List Passage) (p : Passage) :
    questions n (ps ++ [p]) = questions n ps + p.calls.countP (·.ticket.isPoll n) := by
  rw [questions, List.flatMap_append, List.countP_append, List.flatMap_singleton]
  rfl

/-! ### Who asks for the status -/

namespace Keeper

variable {k k' : Keeper} {now : Nat} {e : Event} {l : List Effect}

/-- The engine is asked about the current run, by the timer or once its start is waited for no
more. -/
theorem Step.asks (hs : k.Step now e k' l) (hg : k.board.Gated) {n : Nat} {c : Call}
    (hc : c ∈ l.filterMap Effect.call?) (hn : c.ticket.isPoll n = true) :
    n = k.board.epoch ∧ (e = .tick ∨ k'.board.awaiting = none) := by
  cases hs with
  | takenTwice ha =>
    obtain rfl := by simpa [Effect.call?, List.filterMap_cons] using hc
    have hnone : k.board.awaiting = none := by
      cases hb : k.board.awaiting with
      | none => rfl
      | some m => exact absurd (hg.current hb ▸ hb) ha
    exact ⟨(beq_iff_eq.1 hn).symm, .inr hnone⟩
  | taken | takenOver | closed | expired =>
    obtain rfl := by simpa [Effect.call?, List.filterMap_cons] using hc
    exact ⟨(beq_iff_eq.1 hn).symm, .inr rfl⟩
  | tick =>
    obtain rfl := by simpa [Effect.call?, List.filterMap_cons] using hc
    exact ⟨(beq_iff_eq.1 hn).symm, .inl rfl⟩
  | load | start | stop =>
    -- these calls ask for no status
    obtain rfl := by simpa [Effect.call?, List.filterMap_cons] using hc
    cases hn
  | _ => simp [Effect.call?, List.filterMap_cons] at hc

/-- A start that is waited for was just made, or was waited for before, and then only an answer to
a question of its run touches the accounts. -/
theorem Step.awaiting (hs : k.Step now e k' l) (hg : k.board.Gated) {n : Nat}
    (ha : k'.board.awaiting = some n) :
    (n = k.board.epoch + 1 ∧ k'.board.roster = k.board.roster.resetAll .pending) ∨
      k.board.awaiting = some n ∧ (k'.board.roster = k.board.roster ∨
        ∃ sch s, e = .returned (.polled k.board.epoch sch (.ok s))) := by
  cases hs with
  | start => exact .inl ⟨(Option.some.inj ha).symm, rfl⟩
  | loaded hl => exact absurd hl (hg.active ha)
  | taken | takenOver | refused | closed | expired => cases ha
  | pollFailed | pollLate =>
    rw [answeredPoll_board] at ha ⊢
    exact .inr ⟨ha, .inl rfl⟩
  | polled | polledSame => exact .inr ⟨ha, .inr ⟨_, _, rfl⟩⟩
  | _ => exact .inr ⟨ha, .inl rfl⟩

theorem Step.roster (hs : k.Step now e k' l) (h : k.board.roster.Sound) :
    k'.board.roster.Sound := by
  cases hs with
  | start => exact h.resetAll _
  | loaded => exact (Roster.consistent_replace _ _).sound
  | refused => exact h.setMessages _
  | polled | polledSame => exact h.reconcile _
  | pollFailed | pollLate => rwa [answeredPoll_board]
  | _ => exact h

end Keeper

theorem Station.awaiting_of_tick {s : Station} {b : Branch} (h : s.event? b = some .tick) :
    s.keeper.board.awaiting = none := by
  cases next_of_event? h with
  | tick ht => simpa using (Bool.and_eq_true_iff.1 ht.1).2

theorem Passage.calls_isPoll {p : Passage} (hm : p.before.Moved p.move p.after p.notices)
    (hk : p.before.keeper.Sound) {n : Nat}
    (hn : p.after.keeper.board.epoch < n ∨ p.after.keeper.board.awaiting = some n) :
    p.calls.countP (·.ticket.isPoll n) = 0 := by
  cases he : p.event? with
  | none => rw [(quiet hm he).2, List.countP_nil]
  | some e =>
    obtain ⟨l, hs, -, hcalls⟩ := step hm hk he
    refine List.countP_eq_zero.2 fun c hc hpoll => ?_
    -- a question is about the run of before, and after it no start is waited for
    obtain ⟨rfl, ht⟩ := hs.asks hk.gated (hcalls ▸ hc) hpoll
    rcases hn with hn | ha
    · exact Nat.not_lt.2 hs.epoch_le hn
    rcases ht with rfl | hnone
    · have hfree : p.before.keeper.board.awaiting = none := by
        obtain ⟨s, m, s', ns⟩ := p
        cases m with
        | fire b => exact Station.awaiting_of_tick he
        | _ => cases he
      rcases hs.awaiting hk.gated ha with ⟨hn, -⟩ | ⟨hn, -⟩
      · exact Nat.succ_ne_self _ hn.symm
      · rw [hfree] at hn
        cases hn
    · rw [hnone] at ha
      cases ha

/-! ### A run whose start is waited for -/

/-- While the start of a run is waited for, the run is as it began. -/
structure Unasked (ps : List Passage) (b : Board) : Prop where
  /-- Nobody has asked about a run that has not begun. -/
  future : ∀ n, b.epoch < n → questions n ps = 0
  /-- Nobody has asked about a run whose start is waited for. -/
  awaited : ∀ n, b.awaiting = some n → questions n ps = 0
  /-- All its accounts are pending. -/
  pending : ∀ n, b.awaiting = some n → ∀ id p, b.roster.state? id = some p → p = .pending

namespace Course

variable {set : Settings} {origin : Moment} {ps before after : List Passage} {s : Station}
  {p : Passage} {n : Nat}

theorem roster (h : Course set origin ps s) : s.keeper.board.roster.Sound :=
  h.keeper_induction (P := fun k => k.board.roster.Sound) Roster.sound_empty
    fun _ hs hr => hs.roster hr

/-- **A run whose start is waited for is as it began.** -/
theorem unasked (h : Course set origin ps s) : Unasked ps s.keeper.board := by
  induction h with
  | start => exact ⟨fun _ _ => rfl, nofun, nofun⟩
  | @next ps s m s' ns h _ hm ih =>
    have hmv : (Passage.mk s m s' ns).before.Moved m s' ns := Station.moved_of_move hm
    have hk := h.sound.1
    have hq : ∀ n, s'.keeper.board.epoch < n ∨ s'.keeper.board.awaiting = some n →
        questions n (ps ++ [⟨s, m, s', ns⟩]) = questions n ps := by
      intro n hn
      rw [questions_append_singleton, Passage.calls_isPoll hmv hk hn, Nat.add_zero]
    cases he : (Passage.mk s m s' ns).event? with
    | none =>
      have hsame : s'.keeper = s.keeper := (Passage.quiet hmv he).1
      rw [hsame] at hq ⊢
      exact ⟨fun n hn => (hq n (.inl hn)).trans (ih.future n hn),
        fun n hn => (hq n (.inr hn)).trans (ih.awaited n hn), ih.pending⟩
    | some e =>
      obtain ⟨l, hs, -⟩ := Passage.step hmv hk he
      dsimp only at hs
      refine ⟨fun n hn => ?_, fun n ha => ?_, fun n ha id p hp => ?_⟩
      · exact (hq n (.inl hn)).trans (ih.future n (Nat.lt_of_le_of_lt hs.epoch_le hn))
      · refine (hq n (.inr ha)).trans ?_
        rcases hs.awaiting hk.gated ha with ⟨rfl, -⟩ | ⟨ha', -⟩
        · exact ih.future _ (Nat.lt_succ_self _)
        · exact ih.awaited n ha'
      · rcases hs.awaiting hk.gated ha with ⟨-, hr⟩ | ⟨ha', hr | ⟨sch, x, rfl⟩⟩
        · rw [hr, Roster.state?_resetAll] at hp
          obtain ⟨_, -, rfl⟩ := Option.map_eq_some_iff.1 hp
          rfl
        · exact ih.pending n ha' id p (hr ▸ hp)
        · -- nobody has asked in this run, so there is no answer
          obtain rfl := hk.gated.current ha'
          have hpos : 0 < s.expects (Ticket.isPoll s.keeper.board.epoch) :=
            Passage.expects_pos hmv he (beq_self_eq_true _)
          have hle := h.expects_le_calls (Ticket.isPoll s.keeper.board.epoch)
          exact absurd (ih.awaited _ ha') (Nat.ne_of_gt (Nat.lt_of_lt_of_le hpos hle))

end Course

/-! ### The refusal -/

namespace Passage

variable {p : Passage}

theorem epoch_le (hm : p.before.Moved p.move p.after p.notices) (hk : p.before.keeper.Sound) :
    p.before.keeper.board.epoch ≤ p.after.keeper.board.epoch := by
  cases he : p.event? with
  | none => exact Nat.le_of_eq (congrArg (·.board.epoch) (quiet hm he).1).symm
  | some e =>
    obtain ⟨l, hs, -⟩ := step hm hk he
    exact hs.epoch_le

end Passage

namespace Course

variable {set : Settings} {origin : Moment} {ps before after : List Passage} {s : Station}
  {p : Passage} {n : Nat}

end Course

end Overseer.Monitor
