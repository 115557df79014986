import Overseer.Proofs.Monitor.Calls

/-!
# Questions of the timer

While a run is under way and its start is taken, a timer asks for the status again and again, but it
puts no second question in a run before the answer to the first one is in.  All that it goes by is
one note, the run of its last question (`Keeper.timerPoll`).

* `Keeper.Timed` : the note names the current run exactly while a question that the timer put in
  this run is out.  What else is out has no part in it: questions of the timer in earlier runs, and
  questions that are put for other reasons.
* `Keeper.Step.timed` : every step keeps it, for what the step makes of the questions that are out.
* `Course.timer_polls` : the timer asks once in every run at a time, and always asks when it may.
-/

namespace Overseer.Monitor

open Overseer.Time

/-- How many questions that the timer put in run `n` are out, or are answered and wait. -/
def Station.timerPolls (s : Station) (n : Nat) : Nat := s.expects (· == .poll n true)

namespace Keeper

variable {k k' : Keeper} {now : Nat} {e : Event} {l : List Effect} {out out' : Nat → Nat}

/-- The note of the timer is in order, if so many of its questions are out in each run. -/
structure Timed (k : Keeper) (out : Nat → Nat) : Prop where
  once : ∀ n, out n ≤ 1
  /-- None was put in a run that has not begun. -/
  future : ∀ n, k.board.epoch < n → out n = 0
  noted : k.timerPoll = some k.board.epoch ↔ out k.board.epoch = 1

theorem Timed.congr (h : k.Timed out) (ht : k'.timerPoll = k.timerPoll)
    (he : k'.board.epoch = k.board.epoch) (hx : ∀ n, out' n = out n) : k'.Timed out' := by
  obtain rfl : out' = out := funext hx
  refine ⟨h.once, fun n hn => h.future n (he ▸ hn), ?_⟩
  rw [ht, he]
  exact h.noted

theorem Timed.answeredPoll (h : k.Timed out) {m : Nat} {sch : Bool}
    (hx : ∀ n, out' n + (if m = n ∧ sch = true then 1 else 0) = out n) :
    (k.answeredPoll m sch).Timed out' := by
  cases sch with
  | false =>
    -- the timer did not ask, and its note stays
    refine h.congr ?_ ?_ fun n => by simpa using hx n
    · simp [Keeper.answeredPoll]
    · rw [answeredPoll_board]
  | true =>
    have hle : ∀ n, out' n ≤ out n := fun n => hx n ▸ Nat.le_add_right ..
    refine ⟨fun n => Nat.le_trans (hle n) (h.once n), fun n hn => ?_, ?_⟩
    · rw [answeredPoll_board] at hn
      exact Nat.le_zero.1 (h.future n hn ▸ hle n)
    · rw [answeredPoll_board]
      have hself := hx k.board.epoch
      have hone := h.once k.board.epoch
      by_cases hm : m = k.board.epoch
      · -- it was the question in this run, so the note is gone and none is out
        subst hm
        rw [if_pos ⟨rfl, rfl⟩] at hself
        have hnote : k.timerPoll = some k.board.epoch := h.noted.2 (by omega)
        simp only [Keeper.answeredPoll, hnote, and_self, if_true]
        exact iff_of_false nofun (by omega)
      · -- the note of this run is not about this question
        rw [if_neg fun hc => hm hc.1, Nat.add_zero] at hself
        rw [hself, ← h.noted]
        unfold Keeper.answeredPoll
        split
        · next hc => exact iff_of_false nofun fun ht => hm (Option.some.inj (hc.2.symm.trans ht))
        · exact Iff.rfl

/-- **Every step keeps the note of the timer in order.** -/
theorem Step.timed (hs : k.Step now e k' l) (hk : k.Sound)
    (hx : ∀ n, out' n + e.return?.toList.countP (·.ticket == .poll n true) =
      out n + (l.filterMap Effect.call?).countP (·.ticket == .poll n true))
    (h : k.Timed out) : k'.Timed out' := by
  cases hs with
  | start =>
    have hsame : ∀ n, out' n = out n := fun n => by
      simpa [Event.return?, Effect.call?, Call.ticket, List.filterMap_cons] using hx n
    refine ⟨fun n => hsame n ▸ h.once n, fun n hn => ?_, iff_of_false (fun ht => ?_) ?_⟩
    · exact (hsame n).trans (h.future n (Nat.lt_of_succ_lt hn))
    · -- the timer has asked in no run to come
      exact Nat.not_succ_le_self _ (hk.timer ht)
    · -- nor has anybody else
      have hnone := h.future (k.board.epoch + 1) (Nat.lt_succ_self _)
      change out' (k.board.epoch + 1) ≠ 1
      rw [hsame, hnone]
      exact Nat.zero_ne_one
  | tick ht =>
    have hx' : ∀ n, out' n = out n + if k.board.epoch = n then 1 else 0 := fun n => by
      simpa [Event.return?, Effect.call?, Call.ticket, List.filterMap_cons, List.countP_singleton]
        using hx n
    have hzero : out k.board.epoch = 0 := by
      have := h.once k.board.epoch
      have hne : out k.board.epoch ≠ 1 := fun hone => ht (h.noted.2 hone)
      omega
    refine ⟨fun n => ?_, fun n hn => ?_, iff_of_true rfl ?_⟩
    · have := hx' n
      have := h.once n
      by_cases hn : k.board.epoch = n
      · subst hn
        rw [if_pos rfl] at *
        omega
      · rw [if_neg hn] at *
        omega
    · rw [hx', h.future n hn, if_neg (Nat.ne_of_lt hn)]
    · change out' k.board.epoch = 1
      rw [hx', hzero, if_pos rfl]
  | pollFailed | pollLate =>
    exact h.answeredPoll fun n => by
      simpa [Event.return?, Return.ticket, List.countP_singleton] using hx n
  | @polled sch | @polledSame sch =>
    have ha : (k.answeredPoll k.board.epoch sch).Timed out' := h.answeredPoll fun n => by
      simpa [Event.return?, Return.ticket, Effect.call?, List.filterMap_cons,
        List.countP_singleton] using hx n
    refine ha.congr rfl ?_ fun _ => rfl
    rw [answeredPoll_board]
    rfl
  | _ =>
    -- what is called and what has returned is no question of the timer
    refine h.congr rfl rfl fun n => ?_
    simpa [Event.return?, Return.ticket, Effect.call?, Call.ticket, List.filterMap_cons] using hx n

/-- A tick puts a question in the current run, unless the note names it; then the note does. -/
theorem Step.of_tick (hs : k.Step now .tick k' l) :
    k'.board.epoch = k.board.epoch ∧ k'.timerPoll = some k.board.epoch ∧
      l.filterMap Effect.call? =
        if k.timerPoll = some k.board.epoch then [] else [.poll k.board.epoch true] := by
  cases hs with
  | tick ht => exact ⟨rfl, rfl, by simp [Effect.call?, ht]⟩
  | tickBusy ht => exact ⟨rfl, ht, by simp [ht]⟩

end Keeper

/-! ### Along a course -/

/-- What can be said of the questions of the timer. -/
structure TimerPolls (s : Station) : Prop where
  /-- In each run one is out at most. -/
  once : ∀ n, s.timerPolls n ≤ 1
  /-- The note names the current run exactly while one that was put in it is out. -/
  noted : s.alive = true →
    (s.keeper.timerPoll = some s.keeper.board.epoch ↔ s.timerPolls s.keeper.board.epoch = 1)
  /-- While a run is under way and its start is taken, the timer ticks when it is due, and asks
  about this run unless its last question in it is out; then one is. -/
  tick : s.alive = true → s.keeper.board.lifecycle ≠ .idle → s.keeper.board.awaiting = none →
    s.keeper.nextTick ≤ s.now → ∃ s' ns, s.move (.fire .tick) = some (s', ns) ∧
      ns.filterMap Notice.call? = (if s.timerPolls s.keeper.board.epoch = 1 then []
        else [.poll s.keeper.board.epoch true]) ∧
      s'.keeper.board.epoch = s.keeper.board.epoch ∧ s'.timerPolls s.keeper.board.epoch = 1

namespace Course

variable {set : Settings} {origin : Moment} {ps : List Passage} {s : Station}

/-- **The note of the timer is in order** as long as the monitor is at work. -/
theorem timed (h : Course set origin ps s) (ha : s.alive = true) :
    s.keeper.Timed s.timerPolls := by
  induction h with
  | start => exact ⟨fun _ => Nat.zero_le _, fun _ _ => rfl, iff_of_false nofun nofun⟩
  | @next ps s m s' ns h _ hm ih =>
    have hmv : (Passage.mk s m s' ns).before.Moved m s' ns := Station.moved_of_move hm
    have ht := ih (hmv.alive_of_alive ha)
    have hx := fun n => Passage.expects_eq hmv h.numbered ha (· == .poll n true)
    cases he : (Passage.mk s m s' ns).event? with
    | some e =>
      obtain ⟨l, hs, -, hcalls⟩ := Passage.step hmv h.sound.1 he
      refine hs.timed h.sound.1 (fun n => ?_) ht
      rw [he, hcalls] at hx
      exact hx n
    | none =>
      obtain ⟨hq, hcalls⟩ := Passage.quiet hmv he
      rw [he, hcalls] at hx
      exact ht.congr (congrArg Keeper.timerPoll hq) (congrArg (·.board.epoch) hq) hx

/-- The timer puts no second question in a run before the first one is answered, and no end of the
monitor changes that. -/
theorem timerPolls_le_one (h : Course set origin ps s) (n : Nat) : s.timerPolls n ≤ 1 := by
  induction h with
  | start => exact Nat.zero_le _
  | @next ps s m s' ns h hf hm ih =>
    have hmv : (Passage.mk s m s' ns).before.Moved m s' ns := Station.moved_of_move hm
    cases he : (Passage.mk s m s' ns).event? with
    | some e => exact ((h.next hf hm).timed (Passage.alive_of_event hmv he).2).once n
    | none =>
      have hx := Passage.expects_le hmv (· == .poll n true)
      rw [(Passage.quiet hmv he).2] at hx
      exact Nat.le_trans (Nat.le_trans (Nat.le_add_right ..) hx) ih

/-- **The timer asks once at a time in every run, and always asks when it may.**  Its note names the
current run exactly while a question that it put in this run is out; and whenever it is due, it asks
unless that is so, whatever else is out. -/
theorem timer_polls (h : Course set origin ps s) : TimerPolls s where
  once := h.timerPolls_le_one
  noted ha := (h.timed ha).noted
  tick ha hl hw hdue := by
    have hpoll : s.keeper.polling = true := by
      simp [Keeper.polling, Batch.Lifecycle.isIdle_eq_false_iff.2 hl, hw]
    have he : s.event? .tick = some .tick := by simp [Station.event?, ha, hpoll, hdue]
    obtain ⟨⟨s', ns⟩, hout⟩ : ∃ out, s.handle .tick = out := ⟨_, rfl⟩
    have hmove : s.move (.fire .tick) = some (s', ns) := hout ▸ Station.fire_of_event? he
    have hmv := Station.moved_of_move hmove
    obtain ⟨l, hs, -, hcalls⟩ := Passage.step (p := ⟨s, .fire .tick, s', ns⟩) hmv h.sound.1 he
    obtain ⟨hep, hnote, hasked⟩ := hs.of_tick
    have hafter := (h.next (m := .fire .tick) trivial hmove).timed
      (Passage.alive_of_event (p := ⟨s, .fire .tick, s', ns⟩) hmv he).2
    have hone := hafter.noted.1 (by rw [hnote, hep])
    rw [hep] at hone
    refine ⟨s', ns, hmove, hcalls.trans (hasked.trans ?_), hep, hone⟩
    simp only [(h.timed ha).noted]

/-- A run whose question by the timer is never answered, and the next run up to its first tick. -/
def hangingPoll : List Move := [
  .ask 1 .load, .fire .request, .giveBack .load 1 (.loaded 1 (.ok [⟨"a", "A"⟩])), .fire .returned,
  .ask 2 (.start .empty), .fire .request, .giveBack .start 1 (.started 2 1 (.ok ())),
  .fire .returned, .wait 2000, .fire .tick,
  .emit ⟨Batch.systemId, "All tasks completed", .info, none⟩, .fire .log,
  .ask 3 (.start .empty), .fire .request, .giveBack .start 2 (.started 3 2 (.ok ())),
  .fire .returned, .wait 2000]

/-- The timer asks in the next run while its question in the run before is still out, and so are
those that were put when the runs began and ended. -/
theorem timer_polls_of_hanging_poll :
    ∃ ps s s' ns, Course .default ⟨0, 0⟩ ps s ∧ s.timerPolls 1 = 1 ∧
      s.expects (· == .poll 1 false) = 2 ∧ s.expects (· == .poll 2 false) = 1 ∧
      s.move (.fire .tick) = some (s', ns) ∧ ns.filterMap Notice.call? = [.poll 2 true] ∧
      s'.timerPolls 2 = 1 := by
  obtain ⟨ps, s, hplay, hone, hfirst, hnext, ha, hl, hw, hdue, hep, hnote⟩ :
      ∃ ps s, play .default ⟨0, 0⟩ hangingPoll = some (ps, s) ∧ s.timerPolls 1 = 1 ∧
        s.expects (· == .poll 1 false) = 2 ∧ s.expects (· == .poll 2 false) = 1 ∧
        s.alive = true ∧ s.keeper.board.lifecycle = .running ∧
        s.keeper.board.awaiting = none ∧ s.keeper.nextTick ≤ s.now ∧
        s.keeper.board.epoch = 2 ∧ s.timerPolls 2 = 0 :=
    ⟨_, _, rfl, by decide +kernel⟩
  have hcourse := of_play hplay
  obtain ⟨s', ns, hmove, hcalls, -, hafter⟩ :=
    hcourse.timer_polls.tick ha (by simp [hl]) hw hdue
  rw [hep] at hcalls hafter
  rw [hnote] at hcalls
  exact ⟨ps, s, s', ns, hcourse, hone, hfirst, hnext, hmove, hcalls, hafter⟩

end Course

end Overseer.Monitor
