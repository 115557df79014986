import Overseer.Proofs.Monitor.Control
import Overseer.Proofs.Monitor.Debts

/-!
# What the past of a run says about its control

The control of a run is determined by what the keeper has taken in this run: the requests to stop
(`stopCalls`), the failures of the request that went to the engine (`failures`), and the closing
messages (`closings`).

* `Course.asked` : the engine is asked to stop a run exactly once if anybody asks, and never
  otherwise.
* `Course.length_failures_le` : each request to stop fails once at most.
* `Course.waits` : while a run is stopping, those who asked in this run wait, in their order; its
  time is that of the first of them and the time for a stop; and the failure is the last one of the
  run.
* `Course.starts` : while a run is under way, a start of it that the engine has not answered is the
  one that is waited for.
* `Course.holds` : a closing message is held if the start is waited for and there was one.
-/

namespace Overseer.Monitor

open Overseer.Batch Overseer.Time

/-! ### The past -/

/-- The request to stop a run that is under way: its time and its caller. -/
def Control.stopCall? (c : Control) (now n : Nat) : Event → Option (Nat × Nat)
  | .request w .stop => if c.epoch = n ∧ c.lifecycle ≠ .idle then some (now, w) else none
  | _ => none

/-- The closing message for a run that is under way. -/
def Control.closing? (c : Control) (n : Nat) : Event → Option LogEvent
  | .log x _ =>
    if x.closing = true ∧ c.epoch = n ∧ c.lifecycle ≠ .idle then some x else none
  | _ => none

/-- Why the engine did not take the request to stop a run. -/
def Event.failure? (n : Nat) : Event → Option String
  | .returned (.stopped m (.error err)) => if m = n then some err.message else none
  | _ => none

namespace Passage

variable (p : Passage) (n : Nat)

/-- The request to stop a run that the keeper takes while the run is under way. -/
def stopCall? : Option (Nat × Nat) :=
  p.event?.bind (p.before.keeper.control.stopCall? p.before.now n)

/-- The closing message that the keeper takes while a run is under way. -/
def closing? : Option LogEvent := p.event?.bind (p.before.keeper.control.closing? n)

/-- The failure of a request to stop a run that the keeper learns of. -/
def failure? : Option String := p.event?.bind (Event.failure? n)

/-- How often the engine is asked to stop a run. -/
def stopRequests : Nat := p.calls.countP (·.ticket == .stop n)

end Passage

section Past

variable (n : Nat) (ps : List Passage)

/-- The requests to stop a run that were taken while it was under way, each with its time. -/
def stopCalls : List (Nat × Nat) := ps.filterMap (·.stopCall? n)

/-- The failures of the request to stop a run. -/
def failures : List String := ps.filterMap (·.failure? n)

/-- The closing messages that were taken while a run was under way. -/
def closings : List LogEvent := ps.filterMap (·.closing? n)

/-- How often the engine was asked to stop a run. -/
def stopRequests : Nat := (ps.flatMap (·.calls)).countP (·.ticket == .stop n)

end Past

variable {n : Nat} {ps : List Passage} {p : Passage}

theorem stopCalls_append (a b : List Passage) :
    stopCalls n (a ++ b) = stopCalls n a ++ stopCalls n b := List.filterMap_append

theorem failures_append (a b : List Passage) :
    failures n (a ++ b) = failures n a ++ failures n b := List.filterMap_append

theorem closings_append (a b : List Passage) :
    closings n (a ++ b) = closings n a ++ closings n b := List.filterMap_append

theorem stopRequests_append (a b : List Passage) :
    stopRequests n (a ++ b) = stopRequests n a + stopRequests n b := by
  rw [stopRequests, List.flatMap_append, List.countP_append]
  rfl

theorem stopCalls_singleton (p : Passage) : stopCalls n [p] = (p.stopCall? n).toList := by
  cases h : p.stopCall? n <;> simp [stopCalls, h]

theorem failures_singleton (p : Passage) : failures n [p] = (p.failure? n).toList := by
  cases h : p.failure? n <;> simp [failures, h]

theorem closings_singleton (p : Passage) : closings n [p] = (p.closing? n).toList := by
  cases h : p.closing? n <;> simp [closings, h]

theorem stopRequests_singleton (p : Passage) : stopRequests n [p] = p.stopRequests n := by
  rw [stopRequests, List.flatMap_singleton]
  rfl

theorem stopCalls_event {e : Event} (he : p.event? = some e) (ps : List Passage) (n : Nat) :
    stopCalls n (ps ++ [p]) =
      stopCalls n ps ++ (p.before.keeper.control.stopCall? p.before.now n e).toList := by
  rw [stopCalls_append, stopCalls_singleton, Passage.stopCall?, he, Option.bind_some]

theorem failures_event {e : Event} (he : p.event? = some e) (ps : List Passage) (n : Nat) :
    failures n (ps ++ [p]) = failures n ps ++ (e.failure? n).toList := by
  rw [failures_append, failures_singleton, Passage.failure?, he, Option.bind_some]

theorem closings_event {e : Event} (he : p.event? = some e) (ps : List Passage) (n : Nat) :
    closings n (ps ++ [p]) =
      closings n ps ++ (p.before.keeper.control.closing? n e).toList := by
  rw [closings_append, closings_singleton, Passage.closing?, he, Option.bind_some]

namespace Passage

theorem stopCall?_eq_some {x : Nat × Nat} (h : p.stopCall? n = some x) :
    p.event? = some (.request x.2 .stop) ∧ x.1 = p.before.now ∧
      p.before.keeper.board.epoch = n ∧ p.before.keeper.board.lifecycle ≠ .idle := by
  obtain ⟨e, he, hc⟩ := Option.bind_eq_some_iff.1 h
  unfold Control.stopCall? at hc
  split at hc
  · obtain ⟨hrun, hx⟩ := Option.ite_none_right_eq_some.1 hc
    obtain rfl := Option.some.inj hx
    exact ⟨he, rfl, hrun⟩
  · cases hc

theorem past_of_event?_eq_none (he : p.event? = none) (n : Nat) :
    p.stopCall? n = none ∧ p.failure? n = none ∧ p.closing? n = none := by
  simp [stopCall?, failure?, closing?, he]

end Passage

theorem countP_runCalls {q : Ticket → Bool} (hq : ∀ t, q t = true → t.ofRun = true) (p : Passage) :
    p.runCalls.countP q = p.calls.countP (q ·.ticket) := by
  rw [Passage.runCalls, List.countP_filter, List.countP_map]
  refine List.countP_congr fun x _ => ?_
  by_cases h : q x.ticket = true
  · simp [h, hq _ h]
  · simp [h]

theorem stopRequests_eq_count (p : Passage) : p.stopRequests n = p.runCalls.count (.stop n) := by
  rw [List.count_eq_countP, countP_runCalls (by simp [Ticket.ofRun])]
  rfl

/-! ### Requests to stop -/

/-- What was asked for, and what is asked of the engine. -/
structure Control.Asked (ps : List Passage) (c : Control) : Prop where
  /-- Nobody has asked to stop a run that is not stopping. -/
  running : c.lifecycle = .running → stopCalls c.epoch ps = []
  /-- Somebody has asked to stop a run that is stopping. -/
  stopping : c.lifecycle = .stopping → stopCalls c.epoch ps ≠ []
  /-- Nobody has asked to stop a run that has not begun. -/
  future : ∀ n, c.epoch < n → stopCalls n ps = []
  /-- The engine was asked once if anybody asked. -/
  requests : ∀ n, stopRequests n ps = if stopCalls n ps = [] then 0 else 1

/-- What is no request to stop a run leaves all of it as it is, unless it is the end of the run. -/
theorem Control.Asked.keep {c c' : Control} {ps' : List Passage} (h : c.Asked ps)
    (hc : ∀ n, stopCalls n ps' = stopCalls n ps) (hr : ∀ n, stopRequests n ps' = stopRequests n ps)
    (hep : c'.epoch = c.epoch) (hl : c'.lifecycle = c.lifecycle ∨ c'.lifecycle = .idle) :
    c'.Asked ps' := by
  refine ⟨fun hrun => ?_, fun hstop => ?_, fun n hn => ?_, fun n => ?_⟩
  · rcases hl with hl | hl
    · rw [hc, hep]
      exact h.running (hl ▸ hrun)
    · exact absurd (hl.symm.trans hrun) (by simp)
  · rcases hl with hl | hl
    · rw [hc, hep]
      exact h.stopping (hl ▸ hstop)
    · exact absurd (hl.symm.trans hstop) (by simp)
  · rw [hc]
    exact h.future n (hep ▸ hn)
  · rw [hr, hc]
    exact h.requests n

theorem Control.stopCall?_eq_none {c : Control} {e : Event}
    (hs : ∀ w, e = .request w .stop → c.lifecycle = .idle) (now n : Nat) :
    c.stopCall? now n e = none := by
  cases e with
  | request w r =>
    cases r with
    | stop => simp [stopCall?, hs w rfl]
    | _ => rfl
  | _ => rfl

theorem Control.Asked.begin {c c' : Control} {ps' : List Passage} (h : c.Asked ps)
    (hc : ∀ n, stopCalls n ps' = stopCalls n ps) (hr : ∀ n, stopRequests n ps' = stopRequests n ps)
    (hep : c'.epoch = c.epoch + 1) (hl : c'.lifecycle = .running) : c'.Asked ps' := by
  refine ⟨fun _ => ?_, fun hstop => ?_, fun n hn => ?_, fun n => ?_⟩
  · rw [hc, hep]
    exact h.future _ (Nat.lt_succ_self _)
  · exact absurd (hl.symm.trans hstop) (by simp)
  · rw [hep] at hn
    rw [hc]
    exact h.future n (Nat.lt_of_succ_lt hn)
  · rw [hr, hc]
    exact h.requests n

/-- Somebody asks to stop the run; the engine is asked if this is the first who does. -/
theorem Control.Asked.called {c c' : Control} {ps' : List Passage} (h : c.Asked ps)
    (hself : stopCalls c.epoch ps' ≠ [])
    (hother : ∀ n, n ≠ c.epoch → stopCalls n ps' = stopCalls n ps)
    (hr : ∀ n, stopRequests n ps' =
      stopRequests n ps + if n = c.epoch ∧ stopCalls n ps = [] then 1 else 0)
    (hep : c'.epoch = c.epoch) (hl : c'.lifecycle = .stopping) : c'.Asked ps' := by
  refine ⟨fun hrun => ?_, fun _ => ?_, fun n hn => ?_, fun n => ?_⟩
  · exact absurd (hl.symm.trans hrun) (by simp)
  · rwa [hep]
  · have hn : c.epoch < n := hep ▸ hn
    rw [hother n (Nat.ne_of_gt hn)]
    exact h.future n hn
  · rw [hr, h.requests]
    by_cases hn : n = c.epoch
    · subst hn
      by_cases hnil : stopCalls c.epoch ps = [] <;> simp [hself, hnil]
    · rw [hother n hn, if_neg (fun hm => hn hm.1 : ¬(n = c.epoch ∧ stopCalls n ps = [])),
        Nat.add_zero]

theorem Control.stopCalls_of_call {c : Control} {ps' : List Passage} {now w : Nat}
    (hcalls : ∀ n, stopCalls n ps' =
      stopCalls n ps ++ (c.stopCall? now n (.request w .stop)).toList)
    (hl : c.lifecycle ≠ .idle) :
    stopCalls c.epoch ps' = stopCalls c.epoch ps ++ [(now, w)] ∧
      ∀ n, n ≠ c.epoch → stopCalls n ps' = stopCalls n ps := by
  refine ⟨?_, fun n hn => ?_⟩
  · rw [hcalls]
    simp [stopCall?, hl]
  · rw [hcalls]
    simp [stopCall?, hn.symm]

theorem Control.Asked.next {e : Event} {c' : Control} {ts : List Ticket} {timeout : Nat}
    (he : p.event? = some e) (hts : p.runCalls = ts)
    (ht : p.before.keeper.control.Turn timeout p.before.now e c' ts)
    (h : p.before.keeper.control.Asked ps) : c'.Asked (ps ++ [p]) := by
  have hcalls := stopCalls_event he ps
  have hreqs : ∀ n, stopRequests n (ps ++ [p]) = stopRequests n ps + ts.count (.stop n) := by
    intro n
    rw [stopRequests_append, stopRequests_singleton, stopRequests_eq_count, hts]
  generalize p.before.keeper.control = c at *
  cases ht with
  | begin hl =>
    refine h.begin (fun n => ?_) (fun n => ?_) rfl rfl
    · rw [hcalls]
      exact List.append_nil _
    · rw [hreqs, List.count_singleton]
      rfl
  | @stop w hl =>
    obtain ⟨hself, hother⟩ := Control.stopCalls_of_call hcalls (by simp [hl])
    refine h.called (by simp [hself]) hother (fun n => ?_) rfl rfl
    rw [hreqs, List.count_singleton]
    by_cases hn : n = c.epoch
    · subst hn
      simp [h.running hl]
    · simp [hn, Ne.symm hn]
  | @join w hl =>
    -- there was a request before, so the engine is not asked again
    obtain ⟨hself, hother⟩ := Control.stopCalls_of_call hcalls (by simp [hl])
    refine h.called (by simp [hself]) hother (fun n => ?_) rfl hl
    have hold : ¬(n = c.epoch ∧ stopCalls n ps = []) := by
      rintro ⟨rfl, hnil⟩
      exact h.stopping hl hnil
    rw [hreqs, List.count_nil, if_neg hold]
  | same hs =>
    refine h.keep (fun n => ?_) (fun n => ?_) rfl (.inl rfl)
    · rw [hcalls, Control.stopCall?_eq_none hs]
      exact List.append_nil _
    · rw [hreqs, List.count_nil, Nat.add_zero]
  | ended hl hr =>
    refine h.keep (fun n => ?_) (fun n => ?_) rfl (.inr rfl)
    · rw [hcalls]
      cases hr <;> exact List.append_nil _
    · rw [hreqs, List.count_nil, Nat.add_zero]
  | _ =>
    refine h.keep (fun n => ?_) (fun n => ?_) rfl (.inl rfl)
    · rw [hcalls]
      exact List.append_nil _
    · rw [hreqs, List.count_nil, Nat.add_zero]

namespace Course

variable {set : Settings} {origin : Moment} {s : Station}

/-- **The engine is asked to stop a run once if anybody asks, and else never.** -/
theorem asked (h : Course set origin ps s) : s.keeper.control.Asked ps := by
  refine h.control_induction ⟨fun _ => rfl, fun hs => (by cases hs), fun _ _ => rfl, fun _ => rfl⟩
    (fun he hcalls hc => ?_) fun _ he hts ht hc => hc.next he hts ht
  have hpast := Passage.past_of_event?_eq_none he
  refine hc.keep (fun n => ?_) (fun n => ?_) rfl (.inl rfl)
  · rw [stopCalls_append, stopCalls_singleton, (hpast n).1]
    exact List.append_nil _
  · rw [stopRequests_append, stopRequests_singleton, Passage.stopRequests, hcalls]
    rfl

/-- Each request to stop a run fails once at most. -/
theorem failures_add_expects_le (h : Course set origin ps s) (n : Nat) :
    (failures n ps).length + s.expects (· == .stop n) ≤ stopRequests n ps := by
  induction h with
  | start => exact Nat.le_refl _
  | @next ps s m s' ns _ _ hm ih =>
    have hx := Passage.expects_le (Station.moved_of_move hm) (· == .stop n) (p := ⟨s, m, s', ns⟩)
    -- a failure that the keeper learns of is a return that it handles
    have hf : ((Passage.mk s m s' ns).failure? n).toList.length ≤
        ((Passage.mk s m s' ns).event?.bind Event.return?).toList.countP (·.ticket == .stop n) := by
      cases he : (Passage.mk s m s' ns).event? with
      | none => simp [Passage.failure?, he]
      | some e =>
        rw [Passage.failure?, he, Option.bind_some, Option.bind_some]
        unfold Event.failure?
        split
        · split
          · next h => simp [Event.return?, Return.ticket, h]
          · exact Nat.zero_le _
        · exact Nat.zero_le _
    dsimp only at hx
    rw [failures_append, failures_singleton, stopRequests_append, stopRequests_singleton,
      List.length_append, Passage.stopRequests]
    omega

theorem failures_eq_nil (h : Course set origin ps s) (hn : stopCalls n ps = []) :
    failures n ps = [] := by
  have hle := h.failures_add_expects_le n
  rw [h.asked.requests, if_pos hn] at hle
  exact List.length_eq_zero_iff.1 (by omega)

theorem length_failures_le (h : Course set origin ps s) (n : Nat) : (failures n ps).length ≤ 1 := by
  have hle := h.failures_add_expects_le n
  rw [h.asked.requests] at hle
  split at hle <;> omega

end Course

/-! ### Those who wait -/

/-- Who waits for the end of the run, for how long, and what is known of the request to stop. -/
structure Control.Waits (timeout : Nat) (ps : List Passage) (c : Control) : Prop where
  /-- Nobody waits unless the run is stopping. -/
  other : c.lifecycle ≠ .stopping → c.waiters = [] ∧ c.deadline = none ∧ c.stopError = none
  /-- Those who asked in this run wait. -/
  waiters : c.lifecycle = .stopping → c.waiters = (stopCalls c.epoch ps).map (·.2)
  /-- The time is counted from the first of them. -/
  deadline : c.lifecycle = .stopping →
    c.deadline = (stopCalls c.epoch ps).head?.map (·.1 + timeout)
  /-- The failure is one of this run. -/
  stopError : c.lifecycle = .stopping → c.stopError = (failures c.epoch ps).getLast?

theorem Control.Waits.keep {timeout : Nat} {c c' : Control} {ps' : List Passage}
    (h : c.Waits timeout ps) (hl : c'.lifecycle = c.lifecycle) (hep : c'.epoch = c.epoch)
    (hw : c'.waiters = c.waiters) (hd : c'.deadline = c.deadline) (he : c'.stopError = c.stopError)
    (hc : c.lifecycle = .stopping → stopCalls c.epoch ps' = stopCalls c.epoch ps)
    (hf : c.lifecycle = .stopping → failures c.epoch ps' = failures c.epoch ps) :
    c'.Waits timeout ps' := by
  refine ⟨fun ho => ?_, fun hs => ?_, fun hs => ?_, fun hs => ?_⟩
  · rw [hw, hd, he]
    exact h.other (hl ▸ ho)
  · rw [hw, hep, hc (hl ▸ hs)]
    exact h.waiters (hl ▸ hs)
  · rw [hd, hep, hc (hl ▸ hs)]
    exact h.deadline (hl ▸ hs)
  · rw [he, hep, hf (hl ▸ hs)]
    exact h.stopError (hl ▸ hs)

theorem Control.failure?_eq_none {c : Control} {e : Event}
    (hf : ∀ n err, e = .returned (.stopped n (.error err)) → n ≠ c.epoch ∨ c.waiters = [])
    (hw : c.waiters ≠ []) : e.failure? c.epoch = none := by
  unfold Event.failure?
  split
  · refine if_neg fun hm => ?_
    exact ((hf _ _ rfl).resolve_right hw) hm
  · rfl

/-- The first who asks waits from now on, and nothing can have failed before. -/
theorem Control.Waits.stop {timeout now w : Nat} {c : Control} {ps' : List Passage}
    (h : c.Waits timeout ps) (hl : c.lifecycle = .running)
    (hc : stopCalls c.epoch ps' = [(now, w)]) (hf : failures c.epoch ps' = []) :
    Control.Waits timeout ps' { c with
      lifecycle := .stopping
      waiters := c.waiters ++ [w]
      deadline := some (now + timeout)
      stopError := none } := by
  refine ⟨fun ho => absurd rfl ho, fun _ => ?_, fun _ => ?_, fun _ => ?_⟩
  · rw [hc, (h.other (by simp [hl])).1]
    rfl
  · rw [hc]
    rfl
  · rw [hf]
    rfl

/-- Another one waits as well, and the time still runs from the first request. -/
theorem Control.Waits.join {timeout now w : Nat} {c : Control} {ps' : List Passage}
    (h : c.Waits timeout ps) (hl : c.lifecycle = .stopping) (hne : stopCalls c.epoch ps ≠ [])
    (hc : stopCalls c.epoch ps' = stopCalls c.epoch ps ++ [(now, w)])
    (hf : failures c.epoch ps' = failures c.epoch ps) :
    Control.Waits timeout ps' { c with waiters := c.waiters ++ [w] } := by
  refine ⟨fun ho => absurd hl ho, fun _ => ?_, fun _ => ?_, fun _ => ?_⟩
  · rw [hc, List.map_append, ← h.waiters hl]
    rfl
  · obtain ⟨x, rest, hd⟩ := List.exists_cons_of_ne_nil hne
    rw [hc, hd]
    exact (h.deadline hl).trans (by rw [hd]; rfl)
  · rw [hf]
    exact h.stopError hl

theorem Control.Waits.fail {timeout : Nat} {why : String} {c : Control} {ps' : List Passage}
    (h : c.Waits timeout ps) (hl : c.lifecycle = .stopping)
    (hc : stopCalls c.epoch ps' = stopCalls c.epoch ps)
    (hf : failures c.epoch ps' = failures c.epoch ps ++ [why]) :
    Control.Waits timeout ps' { c with stopError := some why } := by
  refine ⟨fun ho => absurd hl ho, fun _ => ?_, fun _ => ?_, fun _ => ?_⟩
  · rw [hc]
    exact h.waiters hl
  · rw [hc]
    exact h.deadline hl
  · rw [hf, List.getLast?_concat]

theorem Control.Waits.next {e : Event} {c' : Control} {ts : List Ticket} {timeout : Nat}
    (he : p.event? = some e)
    (ht : p.before.keeper.control.Turn timeout p.before.now e c' ts)
    (ha : p.before.keeper.control.Asked ps)
    (hnil : ∀ n, stopCalls n ps = [] → failures n ps = [])
    (h : p.before.keeper.control.Waits timeout ps) : c'.Waits timeout (ps ++ [p]) := by
  have hcalls := stopCalls_event he ps
  have hfails := failures_event he ps
  generalize p.before.keeper.control = c at *
  cases ht with
  | begin hl => exact ⟨fun _ => h.other (by simp [hl]), nofun, nofun, nofun⟩
  | @stop w hl =>
    obtain ⟨hself, -⟩ := Control.stopCalls_of_call hcalls (by simp [hl])
    rw [ha.running hl] at hself
    refine h.stop hl hself ?_
    rw [hfails, hnil _ (ha.running hl)]
    rfl
  | @join w hl =>
    obtain ⟨hself, -⟩ := Control.stopCalls_of_call hcalls (by simp [hl])
    refine h.join hl (ha.stopping hl) hself ?_
    rw [hfails]
    exact List.append_nil _
  | @fail err hw =>
    -- somebody waits, so the run is stopping
    have hl : c.lifecycle = .stopping :=
      Decidable.byContradiction fun ho => hw (h.other ho).1
    refine h.fail hl ?_ ?_
    · rw [hcalls]
      exact List.append_nil _
    · rw [hfails]
      simp [Event.failure?]
  | ended hl hr => exact ⟨fun _ => ⟨rfl, rfl, rfl⟩, nofun, nofun, nofun⟩
  | expire hl =>
    refine ⟨fun _ => ⟨rfl, rfl, rfl⟩, fun hs => ?_, fun hs => ?_, fun hs => ?_⟩ <;>
      exact absurd (hl.symm.trans hs) (by simp)
  | same hs hx hf =>
    refine h.keep rfl rfl rfl rfl rfl (fun _ => ?_) (fun hstop => ?_)
    · rw [hcalls, Control.stopCall?_eq_none hs]
      exact List.append_nil _
    · -- while the run is stopping somebody waits, so no failure of it was missed
      have hwait : c'.waiters ≠ [] := by
        rw [h.waiters hstop]
        exact fun hn => ha.stopping hstop (List.map_eq_nil_iff.1 hn)
      rw [hfails, Control.failure?_eq_none hf hwait]
      exact List.append_nil _
  | _ =>
    refine h.keep rfl rfl rfl rfl rfl (fun _ => ?_) (fun _ => ?_)
    · rw [hcalls]
      exact List.append_nil _
    · rw [hfails]
      exact List.append_nil _

namespace Course

variable {set : Settings} {origin : Moment} {s : Station}

/-- **Who waits, for how long and with what failure** is what was taken in this run. -/
theorem waits (h : Course set origin ps s) : s.keeper.control.Waits set.stopTimeout ps := by
  refine h.control_induction ⟨fun _ => ⟨rfl, rfl, rfl⟩, nofun, nofun, nofun⟩ (fun he _ hw => ?_)
    fun hc he _ ht hw => hw.next he ht hc.asked (fun _ => hc.failures_eq_nil)
  have hpast := Passage.past_of_event?_eq_none he
  refine hw.keep rfl rfl rfl rfl rfl (fun _ => ?_) (fun _ => ?_)
  · rw [stopCalls_append, stopCalls_singleton, (hpast _).1]
    exact List.append_nil _
  · rw [failures_append, failures_singleton, (hpast _).2.1]
    exact List.append_nil _

end Course

/-! ### The start that is waited for -/

/-- The call is the start of a run. -/
def Ticket.isStart (n : Nat) : Ticket → Bool
  | .start _ m => m == n
  | _ => false

theorem Ticket.ofRun_of_isStart {t : Ticket} (h : t.isStart n = true) : t.ofRun = true := by
  cases t with
  | start => rfl
  | _ => cases h

/-- The starts that the engine has not answered, by run. -/
structure Control.Starts (open_ : Nat → Nat) (c : Control) : Prop where
  /-- There is none of a run that has not begun. -/
  future : ∀ n, c.epoch < n → open_ n = 0
  /-- There is one of each run at most. -/
  once : ∀ n, open_ n ≤ 1
  /-- That of a run under way is waited for. -/
  awaited : c.lifecycle ≠ .idle → 0 < open_ c.epoch → c.awaiting = some c.epoch

theorem Control.Starts.mono {c c' : Control} {open_ open' : Nat → Nat} (h : c.Starts open_)
    (hx : ∀ n, open' n ≤ open_ n) (hl : c'.lifecycle ≠ .idle → c.lifecycle ≠ .idle)
    (hep : c'.epoch = c.epoch) (ha : c'.awaiting = c.awaiting) : c'.Starts open' := by
  refine ⟨fun n hn => ?_, fun n => ?_, fun hrun hpos => ?_⟩
  · exact Nat.le_zero.1 (h.future n (hep ▸ hn) ▸ hx n)
  · exact Nat.le_trans (hx n) (h.once n)
  · rw [hep] at hpos ⊢
    rw [ha]
    exact h.awaited (hl hrun) (Nat.lt_of_lt_of_le hpos (hx _))

theorem Control.Starts.next {e : Event} {c c' : Control} {ts : List Ticket} {timeout now : Nat}
    {open_ open' : Nat → Nat} (ht : c.Turn timeout now e c' ts)
    (hx : ∀ n, open' n + e.return?.toList.countP (·.ticket.isStart n) ≤
      open_ n + ts.countP (Ticket.isStart n))
    (h : c.Starts open_) : c'.Starts open' := by
  cases ht with
  | @begin w p hl =>
    have hx' : ∀ n, open' n ≤ open_ n + if c.epoch + 1 = n then 1 else 0 := by
      intro n
      simpa [Event.return?, Ticket.isStart, List.countP_singleton] using hx n
    refine ⟨fun n hn => ?_, fun n => ?_, fun _ _ => rfl⟩
    · have hn : c.epoch + 1 < n := hn
      have := hx' n
      have := h.future n (by omega)
      rw [if_neg (by omega)] at *
      omega
    · -- the new start is the first of its run
      have := hx' n
      by_cases hn : c.epoch + 1 = n
      · have := h.future n (by omega)
        rw [if_pos hn] at *
        omega
      · have := h.once n
        rw [if_neg hn] at *
        omega
  | opened =>
    have hx' : ∀ n, open' n ≤ open_ n := fun n => Nat.le_trans (Nat.le_add_right _ _) (hx n)
    refine ⟨fun n hn => ?_, fun n => ?_, fun _ hpos => ?_⟩
    · exact Nat.le_zero.1 (h.future n hn ▸ hx' n)
    · exact Nat.le_trans (hx' n) (h.once n)
    · -- the return that is handled was the only one of this start
      have hself := hx c.epoch
      have := h.once c.epoch
      simp [Event.return?, Return.ticket, Ticket.isStart] at hself hpos
      omega
  | ended hl hr =>
    have hx' : ∀ n, open' n ≤ open_ n := fun n => Nat.le_trans (Nat.le_add_right _ _) (hx n)
    refine ⟨fun n hn => ?_, fun n => ?_, fun ho => absurd rfl ho⟩
    · exact Nat.le_zero.1 (h.future n hn ▸ hx' n)
    · exact Nat.le_trans (hx' n) (h.once n)
  | stop hl => exact h.mono hx (fun _ => by simp [hl]) rfl rfl
  | _ => exact h.mono (fun n => Nat.le_trans (Nat.le_add_right _ _) (hx n)) id rfl rfl

/-! ### Closing messages -/

/-- The closing message that is held. -/
structure Control.Holds (ps : List Passage) (c : Control) : Prop where
  /-- There was none for a run that has not begun. -/
  future : ∀ n, c.epoch < n → closings n ps = []
  /-- One is held if the start is waited for and there was one for this run. -/
  held : c.held = true ↔ c.awaiting ≠ none ∧ closings c.epoch ps ≠ []

theorem Control.closing?_eq_none {c : Control} {e : Event}
    (hx : ∀ x at_, e = .log x at_ → x.closing = true → c.lifecycle = .idle) (n : Nat) :
    c.closing? n e = none := by
  cases e with
  | log x at_ =>
    have busy : ¬(x.closing = true ∧ c.epoch = n ∧ c.lifecycle ≠ .idle) := by
      rintro ⟨hc, -, hl⟩
      exact hl (hx x at_ rfl hc)
    rw [closing?, if_neg busy]
  | _ => rfl

theorem Control.Holds.next {e : Event} {c' : Control} {ts : List Ticket} {timeout : Nat}
    (he : p.event? = some e)
    (ht : p.before.keeper.control.Turn timeout p.before.now e c' ts)
    (h : p.before.keeper.control.Holds ps) : c'.Holds (ps ++ [p]) := by
  have hclose := closings_event he ps
  generalize p.before.keeper.control = c at *
  have hfuture : ∀ n, c.epoch < n → closings n (ps ++ [p]) = [] := by
    intro n hn
    rw [hclose, h.future n hn]
    cases e with
    | log x at_ => simp [Control.closing?, Nat.ne_of_lt hn]
    | _ => rfl
  cases ht with
  | begin hl =>
    refine ⟨fun n hn => hfuture n (Nat.lt_of_succ_lt hn), iff_of_false nofun ?_⟩
    rintro ⟨-, hne⟩
    exact hne (hfuture _ (Nat.lt_succ_self _))
  | hold hx hl ha =>
    refine ⟨hfuture, iff_of_true rfl ⟨by simp [ha], ?_⟩⟩
    rw [hclose]
    simp [Control.closing?, hx, hl]
  | ended hl hr => exact ⟨hfuture, iff_of_false nofun fun hne => hne.1 rfl⟩
  | opened ha hh => exact ⟨hfuture, iff_of_false (by simp [hh]) fun hne => hne.1 rfl⟩
  | same hs hx =>
    refine ⟨hfuture, ?_⟩
    rw [hclose, Control.closing?_eq_none hx, Option.toList_none, List.append_nil]
    exact h.held
  | _ =>
    refine ⟨hfuture, ?_⟩
    rw [hclose]
    exact h.held.trans (by simp [Control.closing?])

namespace Course

variable {set : Settings} {origin : Moment} {s : Station}

/-- **The start of a run under way that the engine has not answered is waited for.** -/
theorem starts (h : Course set origin ps s) :
    s.keeper.control.Starts fun n => s.expects (Ticket.isStart n) := by
  induction h with
  | start => exact ⟨fun _ _ => rfl, fun _ => Nat.zero_le _, fun hl => absurd rfl hl⟩
  | @next ps s m s' ns h _ hm ih =>
    have hmv : (Passage.mk s m s' ns).before.Moved m s' ns := Station.moved_of_move hm
    have hx := fun n => Passage.expects_le hmv (Ticket.isStart n)
    dsimp only at hx
    cases he : (Passage.mk s m s' ns).event? with
    | none =>
      obtain ⟨hq, hcalls⟩ := Passage.quiet hmv he
      have hx' : ∀ n, s'.expects (Ticket.isStart n) ≤ s.expects (Ticket.isStart n) := by
        intro n
        simpa [he, hcalls] using hx n
      have hc : s'.keeper.control = s.keeper.control := congrArg Keeper.control hq
      rw [hc]
      exact ih.mono hx' id rfl rfl
    | some e =>
      refine ih.next (Passage.turn hmv h.sound.1 he) fun n => ?_
      rw [countP_runCalls fun _ => Ticket.ofRun_of_isStart]
      simpa [he] using hx n

/-- **A closing message is held if the start is waited for and there was one for this run.** -/
theorem holds (h : Course set origin ps s) : s.keeper.control.Holds ps := by
  refine h.control_induction ⟨fun _ _ => rfl, iff_of_false nofun fun hne => hne.1 rfl⟩
    (fun he _ hc => ?_) fun _ he _ ht hc => hc.next he ht
  have hclose := fun n => (Passage.past_of_event?_eq_none he n).2.2
  refine ⟨fun n hn => ?_, ?_⟩
  · rw [closings_append, closings_singleton, hclose]
    exact (List.append_nil _).trans (hc.future n hn)
  · rw [closings_append, closings_singleton, hclose, Option.toList_none, List.append_nil]
    exact hc.held

end Course

end Overseer.Monitor
