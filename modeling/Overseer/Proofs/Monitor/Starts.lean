import Overseer.Proofs.Monitor.Calls

/-!
# Starting a run

What those who ask for a run can rely on, in every course.  A start has one `StartFate`: it waits in
the queue; or it is denied at once, during a run or without accounts; or a run begins for it, and it
is answered when the engine has answered, whatever has become of the run by then; or the monitor
ends first.

* `Course.queued_next` : a request waits in the queue until it is handled or the monitor ends.
* `Passage.closed_or_expected` : a call in the name of a caller stays out until it returns, or its
  caller is told that the monitor is gone.
* `Course.startFate` : every start has a fate.
* `Course.start_protocol` : this, that the engine is asked for the runs 1, 2, 3 and so on in this
  order, each of them once and while nothing runs, and which ways a run can go.
-/

namespace Overseer.Monitor

open Overseer.Batch Overseer.Time

/-- The ways that a run can go in one step. -/
inductive Run.Goes (r : Run) : Run → Prop where
  | stays : Goes r r
  /-- The next run begins. -/
  | begins (hl : r.lifecycle = .idle) : Goes r ⟨.running, r.epoch + 1⟩
  | stops (hl : r.lifecycle = .running) : Goes r ⟨.stopping, r.epoch⟩
  | ends (hl : r.lifecycle ≠ .idle) : Goes r ⟨.idle, r.epoch⟩

/-- The run that a call starts. -/
def Call.start? : Call → Option Nat
  | .start _ n _ => some n
  | _ => none

/-- The runs that the engine was asked to start, in order. -/
def startedRuns (ps : List Passage) : List Nat := (ps.flatMap (·.calls)).filterMap Call.start?

/-- What a caller is told when the engine has answered the start of run `n`. -/
def startReply (n : Nat) : Except RemoteError Unit → Reply
  | .ok _ => .epoch n
  | .error e => .error (.remoteFailed e.message)

/-- Run `n` begins for the start of a caller, and the engine is asked for it. -/
structure Passage.Begins (p : Passage) (w : Nat) (x : Params) (n : Nat) : Prop where
  event : p.event? = some (.request w (.start x))
  idle : p.before.keeper.board.lifecycle = .idle
  accounts : p.before.keeper.board.roster.accounts ≠ []
  number : n = p.before.keeper.board.epoch + 1
  board : p.after.keeper.board = p.before.keeper.board.begun
  calls : p.calls = [.start w n x]
  replies : p.replies = []

/-- What becomes of a start that caller `w` asks for. -/
inductive StartFate (ps : List Passage) (s : Station) (w : Nat) (x : Params) : Prop where
  /-- It waits. -/
  | queued (ha : s.alive = true) (hq : (w, .start x) ∈ s.requests) (hn : answers w ps = [])
  /-- It was handled during a run. -/
  | denied {p} (hp : p ∈ ps) (he : p.event? = some (.request w (.start x)))
      (hl : p.before.keeper.board.lifecycle ≠ .idle) (hk : p.Idles)
      (ha : p.Settles ps w (.error .alreadyRunning))
  /-- There were no accounts. -/
  | empty {p} (hp : p ∈ ps) (he : p.event? = some (.request w (.start x)))
      (hl : p.before.keeper.board.lifecycle = .idle)
      (hs : p.before.keeper.board.roster.accounts = []) (hk : p.Idles)
      (ha : p.Settles ps w (.error .noAccounts))
  /-- A run began for it, and the engine's answer is not in. -/
  | begun {p n} (hp : p ∈ ps) (hb : p.Begins w x n) (ho : 0 < s.expects (· == .start w n))
      (hn : answers w ps = [])
  /-- A run began for it, and later the engine's answer came. -/
  | answered {before p after q n res} (hps : ps = before ++ p :: after) (hb : p.Begins w x n)
      (hq : q ∈ after) (hr : q.event? = some (.returned (.started w n res)))
      (ha : q.answers w = [startReply n res] ∧ answers w ps = [startReply n res])
  /-- The monitor ended first. -/
  | closed (hd : s.alive = false) (ha : answers w ps = [.error .closed])

/-- What those who ask for a run can rely on. -/
structure StartProtocol (ps : List Passage) (s : Station) : Prop where
  /-- A start is answered once at most. -/
  once : ∀ w x, .ask w (.start x) ∈ ps.map (·.move) → (answers w ps).length ≤ 1
  fate : ∀ w x, .ask w (.start x) ∈ ps.map (·.move) → StartFate ps s w x
  /-- The engine was asked once for every run so far, one after the other. -/
  numbers : startedRuns ps = List.range' 1 s.keeper.board.epoch
  /-- It is asked while nothing runs. -/
  idle : ∀ p ∈ ps, ∀ n ∈ p.calls.filterMap Call.start?, p.before.keeper.board.lifecycle = .idle
  goes : ∀ p ∈ ps, p.before.keeper.board.run.Goes p.after.keeper.board.run

/-! ### Steps -/

namespace Keeper

variable {k k' : Keeper} {now : Nat} {e : Event} {l : List Effect}

/-- **A run goes on, begins, stops or ends.** -/
theorem Step.goes (hs : k.Step now e k' l) : k.board.run.Goes k'.board.run := by
  cases hs with
  | start hl => exact .begins hl
  | stop hl => exact .stops hl
  | takenOver _ _ hl | refused hl | closed _ hl | expired hl => exact .ends hl
  | pollFailed | pollLate =>
    rw [answeredPoll_board]
    exact .stays
  | _ => exact .stays

/-- The engine is asked for a run exactly if one begins: for the next one, while nothing runs. -/
theorem Step.starts (hs : k.Step now e k' l) :
    k'.board.epoch = k.board.epoch ∧ (l.filterMap Effect.call?).filterMap Call.start? = [] ∨
      k.board.lifecycle = .idle ∧ k'.board.epoch = k.board.epoch + 1 ∧
        (l.filterMap Effect.call?).filterMap Call.start? = [k.board.epoch + 1] := by
  cases hs with
  | start hl => exact .inr ⟨hl, rfl, rfl⟩
  | takenOver | refused | closed | expired | expiredIdle =>
    exact .inl ⟨rfl, by simp [Effect.call?, Call.start?, List.filterMap_cons]⟩
  | pollFailed | pollLate => exact .inl ⟨congrArg Board.epoch (answeredPoll_board k _ _), rfl⟩
  | _ => exact .inl ⟨rfl, rfl⟩

theorem Step.told_start {w n : Nat} {res : Except RemoteError Unit}
    (hs : k.Step now (.returned (.started w n res)) k' l) :
    (w, startReply n res) ∈ l.filterMap Effect.reply? := by
  cases hs <;> simp [Effect.reply?, List.filterMap_cons, startReply, MonitorError.ofRemote]

end Keeper

/-! ### What waits -/

namespace Station

variable {s : Station} {c : Nat}

theorem mem_callers_applyAll {l : List Effect} (hc : c ∈ s.callers)
    (hn : ∀ r, (c, r) ∉ l.filterMap Effect.reply?) : c ∈ (s.applyAll l).1.callers := by
  induction l generalizing s with
  | nil => exact hc
  | cons x rest ih =>
    refine ih ?_ fun r hr => hn r (List.mem_filterMap.2 ?_)
    · cases x with
      | reply w r =>
        refine List.mem_filter.2 ⟨hc, bne_iff_ne.2 ?_⟩
        rintro rfl
        exact hn r (List.mem_filterMap.2 ⟨_, List.mem_cons_self, rfl⟩)
      | _ => exact hc
    · obtain ⟨y, hy, hyr⟩ := List.mem_filterMap.1 hr
      exact ⟨y, List.mem_cons_of_mem _ hy, hyr⟩

/-- A caller for whom a call is out, or has returned to a monitor at work, is owed an answer. -/
theorem owes_pos_of_expects {t : Ticket} (ht : t.caller? = some c)
    (hr : s.alive = false → s.returns = []) (he : 0 < s.expects (· == t)) : 0 < s.owes c := by
  have hcalls : (s.calls.map (·.2)).countP (·.ticket == t) ≤
      (s.calls.map (·.2)).countP (·.ticket.caller? == some c) :=
    List.countP_mono_left fun x _ hx => by simpa [beq_iff_eq.1 hx] using ht
  have hreturns : s.returns.countP (·.ticket == t) ≤
      s.returns.countP (callerOf · == some c) :=
    List.countP_mono_left fun r _ hx => by simpa [← caller?_ticket, beq_iff_eq.1 hx] using ht
  simp only [expects] at he
  cases ha : s.alive with
  | true =>
    rw [owes_of_alive ha]
    omega
  | false =>
    rw [hr ha, List.countP_nil] at he
    rw [owes_of_ended ha]
    omega

end Station

namespace Course

variable {set : Settings} {origin : Moment} {ps : List Passage} {s : Station} {p : Passage}
  {w : Nat}

theorem empty_of_ended (h : Course set origin ps s) (hd : s.alive = false) :
    s.requests = [] ∧ s.returns = [] := by
  induction h with
  | start => cases hd
  | next _ _ hm ih =>
    cases Station.moved_of_move hm with
    | asked ha | told ha | emitted ha | returned ha => cases ha.symm.trans hd
    | handled he => simp [Station.alive_of_event? he] at hd
    | finished => simp [Station.finish, Station.hangUp]
    | returnedLate ha => simpa [Station.hangUp] using ih ha
    | _ => exact ih hd

theorem mem_callers (h : Course set origin ps s) {r : Request} (hr : (w, r) ∈ s.requests)
    (hw : w ≠ 0) : w ∈ s.callers := by
  induction h with
  | start => cases hr
  | @next ps s m s' ns h hf hm ih =>
    cases Station.moved_of_move hm with
    | asked =>
      rcases List.mem_append.1 hr with hr | hr
      · exact List.mem_append_left _ (ih hr)
      · obtain ⟨rfl, -⟩ := by simpa using hr
        exact List.mem_append_right _ List.mem_cons_self
    | told =>
      rcases List.mem_append.1 hr with hr | hr
      · exact ih hr
      · exact absurd (by simpa using hr : w = 0 ∧ _).1 hw
    | @handled b e he =>
      rw [Station.handle_requests] at hr
      have hold : w ∈ (s.taken b).callers := by
        have := ih (Station.requests_of_event? he ▸ List.mem_append_right _ hr)
        cases b <;> exact this
      refine Station.mem_callers_applyAll hold fun x hx => ?_
      -- whoever is owed an answer was not answered just now
      have hnil := (Course.next h hf hm).answers_eq_nil_of_owes hw (by
        rw [Station.owes_of_alive (by simp [Station.alive_of_event? he]), Station.handle_requests]
        have := List.countP_pos_iff (p := (·.1 == w)).2 ⟨_, hr, beq_self_eq_true w⟩
        omega)
      rw [answers_append, answers_singleton, List.append_eq_nil_iff] at hnil
      refine List.not_mem_nil (hnil.2 ▸ Passage.mem_answers (r := x) ?_)
      rwa [Passage.replies, Station.handle_replies]
    | finished => simp [Station.finish, Station.hangUp] at hr
    | returnedLate hd =>
      rw [Station.hangUp, Station.applyAll_requests, Station.withdraw_requests,
        (h.empty_of_ended hd).1] at hr
      cases hr
    | _ => exact ih hr

/-- **A request waits in the queue** until it is handled or the monitor ends. -/
theorem queued_next (h : Course set origin ps p.before)
    (hm : p.before.Moved p.move p.after p.notices) {r : Request} (hq : (w, r) ∈ p.before.requests)
    (hr : r ≠ .shutdown) : p.event? = some (.request w r) ∨ (w, r) ∈ p.after.requests ∨
      p.after.alive = false ∧ (w, .error .closed) ∈ p.replies := by
  have hw := h.mem_callers hq (h.ne_zero_of_mem_requests hq hr)
  obtain ⟨s, m, s', ns⟩ := p
  change s.Moved m s' ns at hm
  dsimp only at hq hw ⊢
  cases hm with
  | asked | told => exact .inr (.inl (List.mem_append_left _ hq))
  | @handled b e he =>
    rw [Station.requests_of_event? he] at hq
    rcases List.mem_append.1 hq with hq | hq
    · left
      change s.event? b = _
      rw [he]
      cases e with
      | request c x =>
        obtain ⟨rfl, rfl⟩ := by simpa [Event.request?] using hq
        rfl
      | _ => cases hq
    · exact .inr (.inl ((Station.handle_requests ..).symm ▸ hq))
  | finished ha he =>
    -- the end was the first in the queue, so this request waited behind it
    have htail : (w, r) ∈ s.requests.tail := by
      rcases hs : s.requests with _ | ⟨⟨c, x⟩, rest⟩
      · simp [hs] at hq
      · cases x with
        | shutdown => simpa [hs, hr] using hq
        | _ => simp [Station.event?, ha, hs] at he
    refine .inr (.inr ⟨by simp, ?_⟩)
    rw [Passage.replies, Station.finish_replies]
    refine List.mem_map_of_mem (List.mem_append_left _ (List.mem_append_right _ ?_))
    exact List.mem_filter.2 ⟨List.mem_map_of_mem htail, List.contains_iff_mem.2 hw⟩
  | returnedLate => exact .inr (.inl (by simpa [Station.hangUp] using hq))
  | _ => exact .inr (.inl hq)

end Course

/-- **A call in the name of a caller stays out** until it returns, or the caller is told that the
monitor is gone. -/
theorem Passage.closed_or_expected {p : Passage} (hm : p.before.Moved p.move p.after p.notices)
    (hn : p.before.Numbered) (he : p.event? = none) {t : Ticket} {w : Nat}
    (ht : t.caller? = some w) :
    p.after.alive = false ∧ (w, .error .closed) ∈ p.replies ∨
      p.before.expects (· == t) ≤ p.after.expects (· == t) := by
  obtain ⟨s, m, s', ns⟩ := p
  change s.Moved m s' ns at hm
  change s.Numbered at hn
  dsimp only
  cases hm with
  | @returned kind n r call _ ho hrt =>
    have hw := hn.countP_withdraw ho (·.ticket == t)
    rw [← hrt] at hw
    simp only [Station.expects, List.countP_append, List.countP_singleton]
    exact .inr (by omega)
  | @returnedLate kind n r call hd ho hrt =>
    have hw := hn.countP_withdraw ho (·.ticket == t)
    rw [← hrt] at hw
    by_cases hc : r.ticket = t
    · left
      have hcaller : Station.callerOf r = some w := by rw [← caller?_ticket, hc, ht]
      refine ⟨by simpa using hd, ?_⟩
      simp [replies, Station.hangUp_replies, hcaller]
    · right
      rw [if_neg (by simpa using hc), Nat.add_zero] at hw
      simp only [Station.expects, Station.hangUp_calls, Station.hangUp_returns,
        Station.withdraw_returns]
      omega
  | handled he' => exact absurd (he'.symm.trans he) (by simp)
  | finished =>
    by_cases hz : s.returns.countP (·.ticket == t) = 0
    · right
      simp only [Station.expects, Station.finish_calls, Station.finish_returns, Station.taken, hz,
        List.countP_nil]
      exact Nat.le_refl _
    · -- the return waited, so whoever it was for is told
      left
      obtain ⟨r, hr, hrt⟩ := List.countP_pos_iff.1 (Nat.pos_of_ne_zero hz)
      refine ⟨by simp, ?_⟩
      rw [replies, Station.finish_replies]
      refine List.mem_map_of_mem (List.mem_append_right _ (List.mem_filterMap.2 ⟨r, hr, ?_⟩))
      rw [← caller?_ticket, beq_iff_eq.1 hrt, ht]
  | _ => exact .inr (Nat.le_refl _)

/-! ### The protocol -/

namespace Course

variable {set : Settings} {origin : Moment} {ps : List Passage} {s : Station} {p : Passage}
  {w : Nat} {x : Params}

theorem answers_eq_nil_of_queued (h : Course set origin ps s) (ha : s.alive = true) {r : Request}
    (hq : (w, r) ∈ s.requests) (hw : w ≠ 0) : answers w ps = [] := by
  have hpos := List.countP_pos_iff (p := (·.1 == w)).2 ⟨_, hq, beq_self_eq_true w⟩
  refine h.answers_eq_nil_of_owes hw ?_
  rw [Station.owes_of_alive ha]
  omega

theorem answers_eq_nil_of_expected (h : Course set origin ps s) {t : Ticket}
    (ht : t.caller? = some w) (hw : w ≠ 0) (he : 0 < s.expects (· == t)) : answers w ps = [] :=
  h.answers_eq_nil_of_owes hw
    (Station.owes_pos_of_expects ht (fun hd => (h.empty_of_ended hd).2) he)

theorem startFate_of_ask (h : Course set origin (ps ++ [p]) p.after)
    (hp : p.move = .ask w (.start x)) : StartFate (ps ++ [p]) p.after w x := by
  obtain ⟨-, hf, -⟩ := h.upTo
  have hm : p.before.Moved p.move p.after p.notices := h.moved
  rw [hp] at hf hm
  generalize hs : p.after = s, hn : p.notices = ns at hm
  rw [hs] at h
  cases hm with
  | asked ha =>
    have hq : (w, Request.start x) ∈ p.before.requests ++ [(w, .start x)] := by simp
    exact .queued ha hq (h.answers_eq_nil_of_queued ha hq hf.1)
  | askedLate ha =>
    refine .closed ha (h.answers_of_reply (p := p) (by simp) hf.1 ?_).2
    simp [Passage.replies, hn, Notice.reply?]

theorem startFate_of_queued (h : Course set origin (ps ++ [p]) p.after)
    (hq : (w, .start x) ∈ p.before.requests) :
    StartFate (ps ++ [p]) p.after w x := by
  obtain ⟨hc, -, -⟩ := h.upTo
  have hm : p.before.Moved p.move p.after p.notices := h.moved
  have hp : p ∈ ps ++ [p] := by simp
  have hw : w ≠ 0 := hc.ne_zero_of_mem_requests hq (by simp)
  rcases hc.queued_next hm hq (by simp) with he | hq' | ⟨hd, hr⟩
  · obtain ⟨l, hs, hr, hcalls⟩ := Passage.step hm hc.sound.1 he
    generalize hk : p.after.keeper = k at hs
    cases hs with
    | start hl hsize =>
      have hb : p.Begins w x (p.before.keeper.board.epoch + 1) :=
        ⟨he, hl, fun hn => hsize (by rw [Roster.size, hn, List.length_nil]), rfl,
          congrArg Keeper.board hk, hcalls, hr⟩
      have hpos : 0 < p.after.expects (· == .start w (p.before.keeper.board.epoch + 1)) := by
        have hx := Passage.expects_of_event hm he (· == .start w (p.before.keeper.board.epoch + 1))
        rw [hb.calls] at hx
        simp [Event.return?, Call.ticket] at hx
        omega
      exact .begun hp hb hpos (h.answers_eq_nil_of_expected rfl hw hpos)
    | startDenied hl => exact .denied hp he hl ⟨hk, hcalls⟩ (h.settles hp hw hr)
    | startEmpty hl hsize =>
      exact .empty hp he hl (List.length_eq_zero_iff.1 hsize) ⟨hk, hcalls⟩ (h.settles hp hw hr)
  · cases ha' : p.after.alive with
    | true => exact .queued ha' hq' (h.answers_eq_nil_of_queued ha' hq' hw)
    | false => simp [(h.empty_of_ended ha').1] at hq'
  · exact .closed hd (h.answers_of_reply hp hw hr).2

theorem startFate_of_begun (h : Course set origin (ps ++ [p]) p.after) {q : Passage} {n : Nat}
    (hq : q ∈ ps) (hb : q.Begins w x n) (ho : 0 < p.before.expects (· == .start w n)) :
    StartFate (ps ++ [p]) p.after w x := by
  obtain ⟨hc, -, -⟩ := h.upTo
  have hm : p.before.Moved p.move p.after p.notices := h.moved
  have hp : p ∈ ps ++ [p] := by simp
  have hq' : q ∈ ps ++ [p] := List.mem_append_left _ hq
  have hw : w ≠ 0 := hc.ne_zero_of_request hq hb.event (by simp)
  have waits : 0 < p.after.expects (· == .start w n) → StartFate (ps ++ [p]) p.after w x :=
    fun hpos => .begun hq' hb hpos (h.answers_eq_nil_of_expected rfl hw hpos)
  cases he : p.event? with
  | none =>
    rcases Passage.closed_or_expected hm hc.numbered he (t := .start w n) rfl with ⟨hd, hr⟩ | hle
    · exact .closed hd (h.answers_of_reply hp hw hr).2
    · exact waits (Nat.lt_of_lt_of_le ho hle)
  | some e =>
    have hx := Passage.expects_of_event hm he (· == .start w n)
    by_cases hret : ∃ res, e = .returned (.started w n res)
    · -- the answer of the engine is in, and the caller has it in the same passage
      obtain ⟨res, rfl⟩ := hret
      obtain ⟨before, after, rfl⟩ := List.append_of_mem hq
      obtain ⟨l, hs, hr, -⟩ := Passage.step hm hc.sound.1 he
      have hps : before ++ q :: after ++ [p] = before ++ q :: (after ++ [p]) := by simp
      exact .answered hps hb (List.mem_append_right _ List.mem_cons_self) he
        (h.answers_of_reply hp hw (hr ▸ hs.told_start))
    · have hother : e.return?.toList.countP (·.ticket == .start w n) = 0 := by
        refine List.countP_eq_zero.2 fun r hr ht => hret ?_
        cases e with
        | returned r' =>
          obtain rfl : r = r' := by simpa [Event.return?] using hr
          cases r with
          | started c m res =>
            obtain ⟨rfl, rfl⟩ := by simpa [Return.ticket] using ht
            exact ⟨res, rfl⟩
          | _ => simp [Return.ticket] at ht
        | _ => cases hr
      exact waits (by omega)

theorem settles_append {q : Passage} {r : Reply} (h : Course set origin (ps ++ [p]) s) (hw : w ≠ 0)
    (hs : q.Settles ps w r) : q.Settles (ps ++ [p]) w r :=
  ⟨hs.1, h.answers_append_of_answered hw hs.2⟩

/-- **Every start has a fate.** -/
theorem startFate (h : Course set origin ps s) (ha : .ask w (.start x) ∈ ps.map (·.move)) :
    StartFate ps s w x := by
  induction h with
  | start => cases ha
  | @next ps s m s' ns h hf hm ih =>
    have h' : Course set origin (ps ++ [⟨s, m, s', ns⟩]) s' := .next h hf hm
    rw [List.map_append, List.mem_append] at ha
    rcases ha with ha | ha
    · have hw : w ≠ 0 := h.ne_zero_of_ask ha
      cases ih ha with
      | queued _ hq => exact h'.startFate_of_queued hq
      | begun hp hb ho => exact h'.startFate_of_begun hp hb ho
      | denied hp he hl hk hs =>
        exact .denied (List.mem_append_left _ hp) he hl hk (h'.settles_append hw hs)
      | empty hp he hl hr hk hs =>
        exact .empty (List.mem_append_left _ hp) he hl hr hk (h'.settles_append hw hs)
      | answered hps hb hq hr hs =>
        exact .answered (by rw [hps, List.append_assoc, List.cons_append]) hb
          (List.mem_append_left _ hq) hr ⟨hs.1, h'.answers_append_of_answered hw hs.2⟩
      | closed hd hs =>
        refine .closed ?_ (h'.answers_append_of_answered hw hs)
        exact Bool.eq_false_iff.2 fun halive => by
          simp [(Station.moved_of_move hm).alive_of_alive halive] at hd
    · exact h'.startFate_of_ask (List.mem_singleton.1 ha).symm

/-- The engine was asked once for every run so far, one after the other. -/
theorem startedRuns_eq (h : Course set origin ps s) :
    startedRuns ps = List.range' 1 s.keeper.board.epoch := by
  induction h with
  | start => rfl
  | @next ps s m s' ns h _ hm ih =>
    have hmv : (Passage.mk s m s' ns).before.Moved m s' ns := Station.moved_of_move hm
    have hall : startedRuns (ps ++ [⟨s, m, s', ns⟩]) =
        List.range' 1 s.keeper.board.epoch ++
          (Passage.mk s m s' ns).calls.filterMap Call.start? := by
      rw [← ih, startedRuns, List.flatMap_append, List.filterMap_append, List.flatMap_singleton]
      rfl
    rw [hall]
    cases he : (Passage.mk s m s' ns).event? with
    | none =>
      obtain ⟨hq, hcalls⟩ := Passage.quiet hmv he
      dsimp only at hq
      rw [hcalls, hq]
      exact List.append_nil _
    | some e =>
      obtain ⟨l, hs, -, hcalls⟩ := Passage.step hmv h.sound.1 he
      rw [hcalls]
      rcases hs.starts with ⟨hep, hnone⟩ | ⟨-, hep, hone⟩
      · rw [hnone, List.append_nil, ← hep]
      · -- the next number
        have hep' : s'.keeper.board.epoch = s.keeper.board.epoch + 1 := hep
        rw [hone, hep', List.range'_concat, Nat.one_mul, Nat.add_comm 1]

/-- **The start protocol** holds after every course. -/
theorem start_protocol (h : Course set origin ps s) : StartProtocol ps s where
  once w x ha := h.length_answers_le (h.ne_zero_of_ask ha)
  fate w x := h.startFate
  numbers := h.startedRuns_eq
  idle p hp n hn := by
    cases he : p.event? with
    | none =>
      rw [(h.idles_of_mem hp he).2] at hn
      cases hn
    | some e =>
      obtain ⟨l, hs, -, hcalls⟩ := h.step_of_mem hp he
      rw [hcalls] at hn
      rcases hs.starts with ⟨-, hnone⟩ | ⟨hl, -⟩
      · rw [hnone] at hn
        cases hn
      · exact hl
  goes p hp := by
    cases he : p.event? with
    | none =>
      rw [(h.idles_of_mem hp he).1]
      exact .stays
    | some e =>
      obtain ⟨l, hs, -⟩ := h.step_of_mem hp he
      exact hs.goes

/-- A start without accounts, a run that is given up before the engine has taken it, a start that is
denied during it, and two more runs: the engine takes the first run during the second one, and then
refuses the second one. -/
def replacedRuns : List Move := [
  .ask 1 (.start .empty), .fire .request,
  .ask 2 .load, .fire .request, .giveBack .load 1 (.loaded 2 (.ok [⟨"a", "A"⟩])), .fire .returned,
  .ask 3 (.start .empty), .fire .request, .ask 4 (.start .empty), .fire .request,
  .ask 5 .stop, .fire .request, .wait 10000, .fire .deadline,
  .ask 6 (.start .empty), .fire .request,
  .giveBack .start 1 (.started 3 1 (.ok ())), .fire .returned,
  .giveBack .start 2 (.started 6 2 (.error (.transport "gone"))), .fire .returned,
  .ask 7 (.start .empty), .fire .request]

/-- Whoever started the first run has its number, whoever started the second one is told why it has
failed, and the third one has a number of its own. -/
theorem start_protocol_of_replaced_runs :
    ∃ ps s, Course .default ⟨0, 0⟩ ps s ∧ StartProtocol ps s ∧ startedRuns ps = [1, 2, 3] ∧
      answers 1 ps = [.error .noAccounts] ∧ answers 3 ps = [.epoch 1] ∧
      answers 4 ps = [.error .alreadyRunning] ∧
      answers 6 ps = [.error (.remoteFailed "transport: gone")] ∧ answers 7 ps = [] ∧
      s.keeper.board.lifecycle = .running := by
  obtain ⟨ps, s, hplay, hn, hempty, hfirst, hdenied, hsecond, hthird, hl⟩ :
      ∃ ps s, play .default ⟨0, 0⟩ replacedRuns = some (ps, s) ∧ s.keeper.board.epoch = 3 ∧
        answers 1 ps = [.error .noAccounts] ∧ answers 3 ps = [.epoch 1] ∧
        answers 4 ps = [.error .alreadyRunning] ∧
        answers 6 ps = [.error (.remoteFailed "transport: gone")] ∧ answers 7 ps = [] ∧
        s.keeper.board.lifecycle = .running :=
    ⟨_, _, rfl, rfl, rfl, rfl, rfl, rfl, rfl, rfl⟩
  have hprotocol := (of_play hplay).start_protocol
  have hstarts := hprotocol.numbers
  rw [hn] at hstarts
  exact ⟨ps, s, of_play hplay, hprotocol, hstarts, hempty, hfirst, hdenied, hsecond, hthird, hl⟩

end Course

end Overseer.Monitor
