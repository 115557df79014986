import Overseer.Proofs.Monitor.Ledger

/-!
# Stopping a run

What those who ask for the end of a run can rely on, in every course.  A run that somebody has asked
to stop has one `Fate`: it is stopping and all who asked wait; or it has ended in one passage, which
gave all of them the same answer; or the monitor was ended first.  The answer says how the run ended
(`Verdict`).  `Course.stop_protocol` puts this together with when the engine is asked, when the time
is over, and what that does.
-/

namespace Overseer.Monitor

open Overseer.Batch Overseer.Time

/-- A run that was asked to stop ends in a passage. -/
def Passage.Ends (p : Passage) (n : Nat) : Prop :=
  p.before.keeper.board.epoch = n ∧ p.before.keeper.board.lifecycle = .stopping ∧
    p.after.keeper.board.lifecycle = .idle

/-- The monitor ends in a passage. -/
def Passage.Closes (p : Passage) : Prop := p.before.alive = true ∧ p.after.alive = false

/-- What an answer says about the passage in which run `n` ends, after the passages `before`. -/
structure Verdict (before : List Passage) (p : Passage) (n : Nat) (r : Reply) : Prop where
  /-- There are four answers. -/
  cases : r = .stopped .confirmed ∨ r = .stopped .runAborted ∨
    (∃ why, r = .error (.remoteFailed why)) ∨ r = .stopped .timedOut
  /-- The end is confirmed exactly by a closing message, taken now or held until the engine took the
  start. -/
  confirmed : r = .stopped .confirmed ↔
    (∃ x at_, p.event? = some (.log x at_) ∧ x.closing = true ∧
      p.before.keeper.board.awaiting = none) ∨
    ∃ w, p.event? = some (.returned (.started w n (.ok ()))) ∧
      p.before.keeper.board.awaiting = some n ∧ closings n before ≠ []
  /-- The run is aborted exactly if the engine refused the start that was waited for. -/
  aborted : r = .stopped .runAborted ↔
    ∃ w err, p.event? = some (.returned (.started w n (.error err))) ∧
      p.before.keeper.board.awaiting = some n
  /-- The request failed exactly if the time is over and the engine did not take the request to stop
  this run. -/
  failed : ∀ why, r = .error (.remoteFailed why) ↔
    p.event? = some .deadline ∧ failures n before = [why]
  /-- The time was over exactly if it is, and the engine did not refuse the request. -/
  timedOut : r = .stopped .timedOut ↔ p.event? = some .deadline ∧ failures n before = []

/-- What becomes of those who asked to stop run `n`. -/
inductive Fate (ps : List Passage) (s : Station) (n : Nat) : Prop where
  /-- The run is stopping, and nobody is answered yet. -/
  | waiting (ha : s.alive = true) (he : s.keeper.board.epoch = n)
      (hl : s.keeper.board.lifecycle = .stopping)
      (hw : ∀ x ∈ stopCalls n ps, answers x.2 ps = [])
  /-- The run has ended, and the passage in which it did gave everyone the one answer. -/
  | ended {before p after r} (hps : ps = before ++ p :: after) (he : p.Ends n)
      (hv : Verdict before p n r)
      (ha : ∀ x ∈ stopCalls n ps, p.answers x.2 = [r] ∧ answers x.2 ps = [r])
  /-- The monitor has ended while the run was stopping. -/
  | closed {before p after} (hps : ps = before ++ p :: after) (hc : p.Closes)
      (he : p.before.keeper.board.epoch = n) (hl : p.before.keeper.board.lifecycle = .stopping)
      (ha : ∀ x ∈ stopCalls n ps,
        p.answers x.2 = [.error .closed] ∧ answers x.2 ps = [.error .closed])

/-- What those who ask for the end of a run can rely on, after the passages `ps` to a station. -/
structure StopProtocol (set : Settings) (ps : List Passage) (s : Station) : Prop where
  /-- A time is set exactly while the run is stopping. -/
  deadline_isSome : s.keeper.deadline.isSome = true ↔ s.keeper.board.lifecycle = .stopping
  /-- Somebody waits exactly while the run is stopping. -/
  waiters_ne_nil : s.keeper.waiters ≠ [] ↔ s.keeper.board.lifecycle = .stopping
  /-- A failed request is known only then. -/
  stopError_isSome : s.keeper.stopError.isSome = true → s.keeper.board.lifecycle = .stopping
  /-- The engine is asked to stop a run once if anybody asks, and else never. -/
  requests : ∀ n, stopRequests n ps = if stopCalls n ps = [] then 0 else 1
  /-- It is asked in the passage that takes the first request. -/
  first : ∀ {before p after}, ps = before ++ p :: after → ∀ n,
    p.stopRequests n = if p.stopCall? n ≠ none ∧ stopCalls n before = [] then 1 else 0
  /-- The time is that of the first request in this run and the time for a stop. -/
  deadline : s.keeper.board.lifecycle = .stopping →
    s.keeper.deadline =
      (stopCalls s.keeper.board.epoch ps).head?.map (·.1 + set.stopTimeout)
  /-- When the time is over, the run was stopping, and it ends. -/
  expiry : ∀ p ∈ ps, p.move = .fire .deadline →
    p.before.keeper.board.lifecycle = .stopping ∧ p.after.keeper.board.lifecycle = .idle
  /-- Whoever asked waits, or was answered once: when the run or the monitor ended. -/
  fate : ∀ n, stopCalls n ps ≠ [] → Fate ps s n

variable {set : Settings} {origin : Moment} {ps : List Passage} {p : Passage} {s : Station}
  {n : Nat}

/-! ### The verdict -/

theorem Verdict.of_end (h : Course set origin ps p.before)
    (hm : p.before.Moved p.move p.after p.notices) {e : Event} (he : p.event? = some e) {r : Reply}
    (hl : p.before.keeper.board.lifecycle = .stopping) (hr : p.before.keeper.control.End e r) :
    Verdict ps p p.before.keeper.board.epoch r := by
  have hfail : p.before.keeper.stopError = (failures p.before.keeper.board.epoch ps).getLast? :=
    h.waits.stopError hl
  cases hr with
  | @closed x at_ hx ha =>
    refine ⟨.inl rfl, iff_of_true rfl (.inl ⟨x, at_, he, hx, ha⟩), ?_, ?_, ?_⟩ <;> simp [he]
  | @takenOver w ha hh =>
    -- the message that is held came in this run
    have hc := (h.holds.held.1 hh).2
    refine ⟨.inl rfl, iff_of_true rfl (.inr ⟨w, he, ha, hc⟩), ?_, ?_, ?_⟩ <;> simp [he]
  | @refused w err =>
    -- a refusal for this run answers its only start, which is still waited for
    have ha := h.starts.awaited (by simp [Keeper.control, hl])
      (Passage.expects_pos hm he (by simp [Ticket.isStart, Return.ticket]))
    refine ⟨.inr (.inl rfl), ?_, iff_of_true rfl ⟨w, err, he, ha⟩, ?_, ?_⟩ <;> simp [he]
  | @failed why hw =>
    -- one request to stop was made, so it failed once at most
    have hone : failures p.before.keeper.board.epoch ps = [why] := by
      have hle := h.length_failures_le p.before.keeper.board.epoch
      have hlast := hfail.symm.trans hw
      rcases hf : failures p.before.keeper.board.epoch ps with _ | ⟨x, _ | ⟨y, rest⟩⟩
      · simp [hf] at hlast
      · simpa [hf] using hlast
      · simp [hf] at hle
    refine ⟨.inr (.inr (.inl ⟨why, rfl⟩)), ?_, ?_, fun why' => ?_, ?_⟩ <;> simp [he, hone]
  | timedOut hw =>
    have hnil : failures p.before.keeper.board.epoch ps = [] :=
      List.getLast?_eq_none_iff.1 (hfail.symm.trans hw)
    refine ⟨.inr (.inr (.inr rfl)), ?_, ?_, ?_, iff_of_true rfl ⟨he, hnil⟩⟩ <;> simp [he, hnil]

/-! ### Those who wait -/

theorem Passage.told_of_closes (hm : p.before.Moved p.move p.after p.notices) (hc : p.Closes) :
    ∀ w ∈ p.before.keeper.waiters, (w, .error .closed) ∈ p.replies := by
  intro w hw
  obtain ⟨s, m, s', ns⟩ := p
  obtain ⟨ha, ha'⟩ := hc
  change s.Moved m s' ns at hm
  cases hm with
  | finished =>
    rw [replies, Station.finish_replies]
    refine List.mem_map_of_mem ?_
    exact List.mem_append_left _ (List.mem_append_left _ (by simpa using hw))
  | handled he => simp_all
  | returnedLate hd => simp_all
  | _ => simp_all [Station.release, Station.withdraw]

namespace Course

theorem answers_eq_nil (h : Course set origin ps s) (ha : s.alive = true) {c : Nat} (hc : c ≠ 0)
    (hw : c ∈ s.keeper.waiters) : answers c ps = [] := by
  have hpos : 0 < s.keeper.waiters.count c := List.count_pos_iff.2 hw
  refine h.answers_eq_nil_of_owes hc ?_
  rw [Station.owes_of_alive ha]
  omega

theorem ne_zero_of_mem_stopCalls (h : Course set origin ps s) {x : Nat × Nat}
    (hx : x ∈ stopCalls n ps) : x.2 ≠ 0 := by
  obtain ⟨p, hp, hcall⟩ := List.mem_filterMap.1 hx
  obtain ⟨before, after, rfl⟩ := List.append_of_mem hp
  have hreq := Passage.mem_requests h.moved (Passage.stopCall?_eq_some hcall).1
  exact h.upTo.1.ne_zero_of_mem_requests hreq (by simp)

/-- While a run is stopping, those who asked for it wait, and nobody else does. -/
theorem mem_waiters (h : Course set origin ps s) (hl : s.keeper.board.lifecycle = .stopping)
    {x : Nat × Nat} (hx : x ∈ stopCalls s.keeper.board.epoch ps) : x.2 ∈ s.keeper.waiters := by
  have hw : s.keeper.waiters = (stopCalls s.keeper.board.epoch ps).map (·.2) := h.waits.waiters hl
  rw [hw]
  exact List.mem_map_of_mem hx

theorem fate_of_stopping (h : Course set origin ps s) (ha : s.alive = true)
    (hl : s.keeper.board.lifecycle = .stopping) : Fate ps s s.keeper.board.epoch :=
  .waiting ha rfl hl fun _ hx =>
    h.answers_eq_nil ha (h.ne_zero_of_mem_stopCalls hx) (h.mem_waiters hl hx)

theorem stopping_of_stopCall? (h : Course set origin (ps ++ [p]) p.after) {x : Nat × Nat}
    (hx : p.stopCall? n = some x) :
    p.after.alive = true ∧ p.after.keeper.board.lifecycle = .stopping ∧
      p.after.keeper.board.epoch = n := by
  obtain ⟨hc, -, -⟩ := h.upTo
  obtain ⟨he, -, hep, hl⟩ := Passage.stopCall?_eq_some hx
  have hmv : p.before.Moved p.move p.after p.notices := h.moved
  obtain ⟨hl', hep'⟩ := (Passage.turn hmv hc.sound.1 he).of_stop hl
  exact ⟨(Passage.alive_of_event hmv he).2, hl', hep'.trans hep⟩

/-- What becomes of a run that is stopping in the next passage, if nobody else asks. -/
theorem fate_of_waiting (h : Course set origin (ps ++ [p]) p.after) (ha : p.before.alive = true)
    (hep : p.before.keeper.board.epoch = n) (hl : p.before.keeper.board.lifecycle = .stopping)
    (hsame : stopCalls n (ps ++ [p]) = stopCalls n ps) : Fate (ps ++ [p]) p.after n := by
  obtain ⟨hc, -, -⟩ := h.upTo
  have hmv : p.before.Moved p.move p.after p.notices := h.moved
  have hwait : ∀ x ∈ stopCalls n ps, x.2 ≠ 0 ∧ x.2 ∈ p.before.keeper.waiters := by
    intro x hx
    exact ⟨hc.ne_zero_of_mem_stopCalls hx, hc.mem_waiters hl (hep ▸ hx)⟩
  cases he : p.event? with
  | none =>
    have hq := (Passage.quiet hmv he).1
    cases ha' : p.after.alive with
    | true =>
      have hf := h.fate_of_stopping ha' (by rw [hq, hl])
      rwa [hq, hep] at hf
    | false =>
      -- without an event a monitor at work can only end, and hangs up on all who wait
      refine .closed rfl ⟨ha, ha'⟩ hep hl fun x hx => ?_
      obtain ⟨h0, hw⟩ := hwait x (hsame ▸ hx)
      exact h.answers_of_reply (List.mem_append_right _ List.mem_cons_self) h0
        (Passage.told_of_closes hmv ⟨ha, ha'⟩ _ hw)
  | some e =>
    obtain ⟨hep', hl' | hl'⟩ := (Passage.turn hmv hc.sound.1 he).of_stopping hl
    · have hf := h.fate_of_stopping (Passage.alive_of_event hmv he).2 hl'
      rwa [show p.after.keeper.board.epoch = n from hep'.trans hep] at hf
    · obtain ⟨r, hr, htold⟩ := Passage.told hmv hc.sound.1 he (by simp [hl]) hl'
      refine .ended rfl ⟨hep, hl, hl'⟩ (hep ▸ Verdict.of_end hc hmv he hl hr) fun x hx => ?_
      obtain ⟨h0, hw⟩ := hwait x (hsame ▸ hx)
      exact h.answers_of_reply (List.mem_append_right _ List.mem_cons_self) h0 (htold _ hw)

/-- **Every run that somebody has asked to stop has a fate.** -/
theorem fate (h : Course set origin ps s) (hn : stopCalls n ps ≠ []) : Fate ps s n := by
  induction h with
  | start => exact absurd rfl hn
  | @next ps s m s' ns h hf hm ih =>
    have h' : Course set origin (ps ++ [⟨s, m, s', ns⟩]) s' := .next h hf hm
    cases hcall : (Passage.mk s m s' ns).stopCall? n with
    | some x =>
      -- whoever asks now waits with all who asked before
      obtain ⟨ha, hl, hep⟩ := h'.stopping_of_stopCall? hcall
      exact hep ▸ h'.fate_of_stopping ha hl
    | none =>
      have hsame : stopCalls n (ps ++ [⟨s, m, s', ns⟩]) = stopCalls n ps := by
        rw [stopCalls_append, stopCalls_singleton, hcall]
        exact List.append_nil _
      -- whoever has been answered is not answered again
      have hkeep : ∀ {x : Nat × Nat} {r : Reply}, x ∈ stopCalls n ps → answers x.2 ps = [r] →
          answers x.2 (ps ++ [⟨s, m, s', ns⟩]) = [r] := fun hx hr =>
        h'.answers_append_of_answered (h.ne_zero_of_mem_stopCalls hx) hr
      cases ih (hsame ▸ hn) with
      | waiting ha hep hl => exact h'.fate_of_waiting ha hep hl hsame
      | ended hps he hv ha =>
        refine .ended (by rw [hps, List.append_assoc, List.cons_append]) he hv fun x hx => ?_
        obtain ⟨hp, hall⟩ := ha x (hsame ▸ hx)
        exact ⟨hp, hkeep (hsame ▸ hx) hall⟩
      | closed hps hc hep hl ha =>
        refine .closed (by rw [hps, List.append_assoc, List.cons_append]) hc hep hl fun x hx => ?_
        obtain ⟨hp, hall⟩ := ha x (hsame ▸ hx)
        exact ⟨hp, hkeep (hsame ▸ hx) hall⟩

/-! ### The protocol -/

theorem deadline_isSome_iff (h : Course set origin ps s) :
    s.keeper.deadline.isSome = true ↔ s.keeper.board.lifecycle = .stopping := by
  constructor
  · intro hd
    refine Decidable.byContradiction fun hl => ?_
    have hnone : s.keeper.deadline = none := (h.waits.other hl).2.1
    simp [hnone] at hd
  · intro hl
    have hd : s.keeper.deadline = _ := h.waits.deadline hl
    rw [hd, Option.isSome_map, List.isSome_head?]
    simpa using h.asked.stopping hl

theorem waiters_ne_nil_iff (h : Course set origin ps s) :
    s.keeper.waiters ≠ [] ↔ s.keeper.board.lifecycle = .stopping := by
  constructor
  · exact fun hw => Decidable.byContradiction fun hl => hw (h.waits.other hl).1
  · intro hl
    have hw : s.keeper.waiters = _ := h.waits.waiters hl
    rw [hw]
    exact fun hn => h.asked.stopping hl (List.map_eq_nil_iff.1 hn)

theorem stopRequests_eq {before after : List Passage}
    (h : Course set origin (before ++ p :: after) s) (n : Nat) :
    p.stopRequests n = if p.stopCall? n ≠ none ∧ stopCalls n before = [] then 1 else 0 := by
  obtain ⟨hc, hf, hm⟩ := h.upTo
  -- compare what the invariant says of the engine before and after the passage
  have hafter := (Course.next hc hf hm).asked.requests n
  rw [stopRequests_append, stopRequests_singleton, hc.asked.requests n, stopCalls_append,
    stopCalls_singleton] at hafter
  have hafter : (if stopCalls n before = [] then 0 else 1) + p.stopRequests n =
    if stopCalls n before ++ (p.stopCall? n).toList = [] then 0 else 1 := hafter
  by_cases hb : stopCalls n before = []
  · cases hp : p.stopCall? n <;> simp_all
  · simp_all

theorem idle_of_deadline {before after : List Passage}
    (h : Course set origin (before ++ p :: after) s) (hd : p.move = .fire .deadline) :
    p.before.keeper.board.lifecycle = .stopping ∧ p.after.keeper.board.lifecycle = .idle := by
  obtain ⟨hc, -, hm⟩ := h.upTo
  have hmv := h.moved
  have hf : p.before.fire .deadline = some (p.after, p.notices) := by rwa [hd] at hm
  have he : p.before.event? .deadline = some .deadline ∧ p.before.keeper.deadline.isSome := by
    unfold Station.fire at hf
    split at hf
    · cases hf
    · next ha =>
      rcases ht : p.before.keeper.deadline with _ | t
      · simp [ht] at hf
      · by_cases hle : t ≤ p.before.now
        · simp [Station.event?, ha, ht, hle]
        · simp [ht, hle] at hf
  have he' : p.event? = some .deadline := by rw [Passage.event?, hd, ← he.1]
  exact ⟨hc.deadline_isSome_iff.1 he.2, (Passage.turn hmv hc.sound.1 he').of_deadline⟩

/-- **The stop protocol** holds after every course. -/
theorem stop_protocol (h : Course set origin ps s) : StopProtocol set ps s where
  deadline_isSome := h.deadline_isSome_iff
  waiters_ne_nil := h.waiters_ne_nil_iff
  stopError_isSome he := by
    refine Decidable.byContradiction fun hl => ?_
    have hnone : s.keeper.stopError = none := (h.waits.other hl).2.2
    simp [hnone] at he
  requests := h.asked.requests
  first hps := (hps ▸ h).stopRequests_eq
  deadline := h.waits.deadline
  expiry p hp hd := by
    obtain ⟨before, after, rfl⟩ := List.append_of_mem hp
    exact h.idle_of_deadline hd
  fate _ := h.fate

/-- Two callers ask to stop a run, the engine does not get the request, and the time for the stop
goes by: the run ends, and both are answered. -/
theorem stop_protocol_of_failed_stop :
    ∃ ps s, Course .default ⟨0, 0⟩ ps s ∧ StopProtocol .default ps s ∧
      stopCalls 1 ps = [(0, 3), (7, 4)] ∧ failures 1 ps = ["transport: gone"] ∧
      s.keeper.board.lifecycle = .idle ∧ (answers 3 ps).length = 1 ∧
      (answers 4 ps).length = 1 := by
  let moves : List Move := [
    .ask 1 .load, .fire .request, .giveBack .load 1 (.loaded 1 (.ok [⟨"a", "A"⟩])),
    .fire .returned, .ask 2 (.start .empty), .fire .request, .ask 3 .stop, .fire .request,
    .wait 7, .ask 4 .stop, .fire .request,
    .giveBack .stop 1 (.stopped 1 (.error (.transport "gone"))), .fire .returned,
    .wait 9993, .fire .deadline]
  obtain ⟨⟨ps, s⟩, h⟩ : ∃ out, play .default ⟨0, 0⟩ moves = some out := ⟨_, rfl⟩
  have hcourse := of_play h
  have hpast : (play .default ⟨0, 0⟩ moves).map (fun out =>
      (stopCalls 1 out.1, failures 1 out.1, out.2.keeper.board.lifecycle,
        (answers 3 out.1).length, (answers 4 out.1).length)) =
    some ([(0, 3), (7, 4)], ["transport: gone"], .idle, 1, 1) := by decide +kernel
  rw [h] at hpast
  exact ⟨ps, s, hcourse, hcourse.stop_protocol, by simpa using hpast⟩

end Course

end Overseer.Monitor
