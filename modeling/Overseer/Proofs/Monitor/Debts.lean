import Overseer.Proofs.Monitor.Moves

/-!
# What a station owes, and what it is owed

A request is owed one answer, wherever it is: in the queue, behind a call, among the returns or with
those who wait for the end of the run (`Station.owes`).  A call is owed one return, until the keeper
handles it (`Station.expects`).  No move makes up a debt.

* `Course.answers_add_owes_le` : the answers to a caller and what is still owed to it are no more
  than its requests, so a caller is answered once at most.
* `Course.asks_le_one` : a caller asks once.
* `Passage.expects_le` : a return that the keeper handles is expected no more.
-/

namespace Overseer.Monitor

open Overseer.Time

/-- The caller for whom a call is made. -/
def Ticket.caller? : Ticket → Option Nat
  | .load c | .start c _ => some c
  | _ => none

theorem caller?_ticket (r : Return) : r.ticket.caller? = Station.callerOf r := by cases r <;> rfl

/-- The answers to a caller in a passage. -/
def Passage.answers (p : Passage) (c : Nat) : List Reply :=
  p.replies.filterMap fun x => if x.1 = c then some x.2 else none

/-- The answers to a caller. -/
def answers (c : Nat) (ps : List Passage) : List Reply := ps.flatMap (·.answers c)

/-- A caller, and nobody else, is answered in a passage, and gets no other answer. -/
def Passage.Settles (ps : List Passage) (p : Passage) (c : Nat) (r : Reply) : Prop :=
  p.replies = [(c, r)] ∧ Overseer.Monitor.answers c ps = [r]

/-- How often a caller has asked. -/
def asks (c : Nat) (ps : List Passage) : Nat := ps.countP (·.move.asker? == some c)

/-- How many answers a station owes to a caller. -/
def Station.owes (s : Station) (c : Nat) : Nat :=
  (s.calls.map (·.2)).countP (·.ticket.caller? == some c) +
    if s.alive then
      s.requests.countP (·.1 == c) + s.returns.countP (callerOf · == some c) +
        s.keeper.waiters.count c
    else 0

/-- How many calls of a sort are out, or have returned and wait. -/
def Station.expects (s : Station) (q : Ticket → Bool) : Nat :=
  (s.calls.map (·.2)).countP (q ·.ticket) + s.returns.countP (q ·.ticket)

theorem answers_append (c : Nat) (a b : List Passage) :
    answers c (a ++ b) = answers c a ++ answers c b := List.flatMap_append

theorem asks_append (c : Nat) (a b : List Passage) : asks c (a ++ b) = asks c a + asks c b :=
  List.countP_append

theorem answers_singleton (c : Nat) (p : Passage) : answers c [p] = p.answers c :=
  List.flatMap_singleton ..

theorem Passage.length_answers (p : Passage) (c : Nat) :
    (p.answers c).length = p.replies.countP (·.1 == c) := by
  rw [answers, List.length_filterMap_eq_countP]
  refine List.countP_congr fun x _ => ?_
  by_cases h : x.1 = c <;> simp [h]

theorem Passage.mem_answers {p : Passage} {c : Nat} {r : Reply} (h : (c, r) ∈ p.replies) :
    r ∈ p.answers c :=
  List.mem_filterMap.2 ⟨(c, r), h, if_pos rfl⟩

/-! ### What the keeper does about its debts -/

namespace Keeper

variable {k k' : Keeper} {now : Nat} {e : Event} {l : List Effect}

theorem countP_waiters (ws : List Nat) (r : Reply) (c : Nat) :
    ws.countP ((fun x : Nat × Reply => x.1 == c) ∘ fun w => (w, r)) = ws.count c := rfl

theorem answeredPoll_waiters (k : Keeper) (e : Nat) (sch : Bool) :
    (k.answeredPoll e sch).waiters = k.waiters := by
  unfold answeredPoll
  split <;> rfl

/-- **A step makes up no debt**: whoever is answered, has a call made for it or waits afterwards
asked in this event, had its call returned in it, or waited before. -/
theorem Step.owes (hs : k.Step now e k' l) (c : Nat) :
    (l.filterMap Effect.reply?).countP (·.1 == c) +
        (l.filterMap Effect.call?).countP (·.ticket.caller? == some c) + k'.waiters.count c ≤
      e.request?.toList.countP (·.1 == c) +
        e.return?.toList.countP (Station.callerOf · == some c) + k.waiters.count c := by
  cases hs with
  | takenOver | refused =>
    simp [Event.request?, Event.return?, Station.callerOf, Effect.reply?, Effect.call?,
      Call.ticket, Ticket.caller?, List.filterMap_cons, List.countP_cons, countP_waiters,
      unattended, showing, Nat.add_comm]
  | closed | expired | expiredIdle =>
    simp [Event.request?, Event.return?, Effect.reply?, Effect.call?, Call.ticket, Ticket.caller?,
      List.filterMap_cons, countP_waiters, unattended, showing]
  | pollFailed | pollLate | polled | polledSame =>
    simp [Event.request?, Event.return?, Effect.reply?, Effect.call?, List.filterMap_cons,
      answeredPoll_waiters, showing, onBoard]
  | stop | stopAgain =>
    simp [Event.request?, Event.return?, Effect.reply?, Effect.call?, Call.ticket, Ticket.caller?,
      List.filterMap_cons, List.countP_cons, List.count_singleton, Nat.add_comm]
  | _ =>
    simp [Event.request?, Event.return?, Station.callerOf, Effect.reply?, Effect.call?,
      Call.ticket, Ticket.caller?, List.filterMap_cons, List.countP_cons, showing, onBoard]

end Keeper

/-! ### What a move does about the debts -/

section Withdraw

variable {α : Type}

/-- An element that is found is the first of those that are taken out. -/
theorem countP_of_find? {p : α → Bool} {l : List α} {a : α} (h : l.find? p = some a)
    (q : α → Bool) : ∃ others, l.filter p = a :: others ∧
      (l.filter fun x => !p x).countP q + (if q a then 1 else 0) + others.countP q =
        l.countP q := by
  obtain ⟨others, hf⟩ := List.head?_eq_some_iff.1 (List.head?_filter.trans h)
  have hsplit := List.countP_eq_countP_filter_add l q p
  rw [hf, List.countP_cons] at hsplit
  refine ⟨others, hf, ?_⟩
  omega

end Withdraw

namespace Station

theorem owes_of_alive {s : Station} (ha : s.alive = true) (c : Nat) :
    s.owes c = (s.calls.map (·.2)).countP (·.ticket.caller? == some c) +
      (s.requests.countP (·.1 == c) + s.returns.countP (callerOf · == some c) +
        s.keeper.waiters.count c) := by
  rw [owes, if_pos ha]

/-- A monitor that has ended owes answers only for the calls that are out. -/
theorem owes_of_ended {s : Station} (ha : s.alive = false) (c : Nat) :
    s.owes c = (s.calls.map (·.2)).countP (·.ticket.caller? == some c) := by
  rw [owes, if_neg (by simp [ha]), Nat.add_zero]

variable {s : Station} {kind : CallKind} {n : Nat} {c : Call}

@[simp] theorem withdraw_keeper : (s.withdraw kind n).keeper = s.keeper := rfl
@[simp] theorem withdraw_requests : (s.withdraw kind n).requests = s.requests := rfl
@[simp] theorem withdraw_returns : (s.withdraw kind n).returns = s.returns := rfl
@[simp] theorem withdraw_alive : (s.withdraw kind n).alive = s.alive := rfl

theorem countP_withdraw (ho : s.out? kind n = some c) (q : Call → Bool) :
    ((s.withdraw kind n).calls.map (·.2)).countP q + (if q c then 1 else 0) ≤
      (s.calls.map (·.2)).countP q := by
  obtain ⟨⟨n', c'⟩, hf, rfl⟩ := Option.map_eq_some_iff.1 ho
  obtain ⟨others, -, hcount⟩ := countP_of_find? hf (q ∘ (·.2))
  simp only [withdraw, List.countP_map]
  exact Nat.le_trans (Nat.le_add_right ..) (Nat.le_of_eq hcount)

theorem hangUp_calls (s : Station) (cs : List Nat) :
    (s.hangUp cs).1.calls.map (·.2) = s.calls.map (·.2) := by
  have h : (cs.map fun c => Effect.reply c (.error .closed)).filterMap Effect.call? = [] := by
    rw [List.filterMap_map]
    exact List.filterMap_eq_nil_iff.2 fun _ _ => rfl
  rw [hangUp, applyAll_calls, h, List.append_nil]

theorem finish_calls (s : Station) : s.finish.1.calls.map (·.2) = s.calls.map (·.2) := by
  rw [finish, hangUp_calls]

theorem hangUp_returns (s : Station) (cs : List Nat) : (s.hangUp cs).1.returns = s.returns := by
  rw [hangUp, applyAll_returns]

theorem finish_returns (s : Station) : s.finish.1.returns = [] := by
  rw [finish, hangUp_returns]

theorem countP_waiting (s : Station) (c : Nat) :
    (s.waiting.map fun w => (w, (.error .closed : Reply))).countP (·.1 == c) ≤
      s.requests.countP (·.1 == c) + s.returns.countP (callerOf · == some c) +
        s.keeper.waiters.count c := by
  have hreq : ((s.requests.map (·.1)).filter s.callers.contains).countP (· == c) ≤
      s.requests.countP (·.1 == c) := by
    have hle := (List.filter_sublist (p := s.callers.contains)
      (l := s.requests.map (·.1))).countP_le (p := (· == c))
    rwa [List.countP_map] at hle
  have hret : (s.returns.filterMap callerOf).countP (· == c) =
      s.returns.countP (callerOf · == some c) := by
    rw [List.countP_filterMap]
    refine List.countP_congr fun r _ => ?_
    cases h : callerOf r <;> simp
  rw [List.countP_map]
  change s.waiting.countP (· == c) ≤ _
  rw [waiting, List.countP_append, List.countP_append, hret, List.count_eq_countP]
  omega

/-- A debt moves from the call to its return. -/
theorem owes_returned {r : Return} (ha : s.alive = true) (ho : s.out? kind n = some c)
    (ht : r.ticket = c.ticket) (w : Nat) :
    { s.withdraw kind n with returns := s.returns ++ [r] }.owes w ≤ s.owes w := by
  have hw := countP_withdraw ho (·.ticket.caller? == some w)
  rw [← ht, caller?_ticket] at hw
  rw [owes_of_alive ha, owes_of_alive (by exact ha)]
  simp only [List.countP_append, List.countP_singleton, withdraw_requests, withdraw_keeper]
  omega

/-- When the monitor is gone, the debt for a call is paid by hanging up. -/
theorem owes_returnedLate {r : Return} (ha : s.alive = false) (ho : s.out? kind n = some c)
    (ht : r.ticket = c.ticket) (w : Nat) :
    (((s.withdraw kind n).hangUp (callerOf r).toList).2.filterMap Notice.reply?).countP
        (·.1 == w) + ((s.withdraw kind n).hangUp (callerOf r).toList).1.owes w ≤ s.owes w := by
  have hw := countP_withdraw ho (·.ticket.caller? == some w)
  rw [← ht, caller?_ticket] at hw
  rw [owes_of_ended ha, owes_of_ended (by simpa using ha), hangUp_calls, hangUp_replies]
  cases hc : callerOf r with
  | none =>
    simp only [Option.toList_none, List.map_nil, List.countP_nil]
    omega
  | some c' =>
    rw [hc] at hw
    by_cases hcc : c' = w
    · simp [hcc] at hw ⊢
      omega
    · simp [hcc] at hw ⊢
      omega

/-- What the monitor answers, calls for and keeps is paid by what the event takes off the queues. -/
theorem owes_handled {b : Branch} {e : Event} (hk : s.keeper.Sound) (he : s.event? b = some e)
    (w : Nat) :
    (((s.taken b).handle e).2.filterMap Notice.reply?).countP (·.1 == w) +
      ((s.taken b).handle e).1.owes w ≤ s.owes w := by
  have hs := (Keeper.step_handle hk.gated s.now e).owes w
  have ha := alive_of_event? he
  have hreq := congrArg (List.countP (·.1 == w)) (requests_of_event? he)
  have hret := congrArg (List.countP (callerOf · == some w)) (returns_of_event? he)
  rw [List.countP_append] at hreq hret
  rw [owes_of_alive ha, owes_of_alive (by simpa using ha), handle_replies, handle_calls,
    List.countP_append, hreq, hret]
  simp only [handle_requests, handle_returns, handle_keeper, taken_keeper, taken_calls, taken_now]
  omega

/-- Everybody who waits is answered at the end, so nothing is owed to them any more. -/
theorem owes_finished (ha : s.alive = true) (w : Nat) :
    ((s.taken .request).finish.2.filterMap Notice.reply?).countP (·.1 == w) +
      (s.taken .request).finish.1.owes w ≤ s.owes w := by
  have hw := (s.taken .request).countP_waiting w
  have htail : s.requests.tail.countP (·.1 == w) ≤ s.requests.countP (·.1 == w) :=
    (List.tail_sublist _).countP_le
  rw [owes_of_alive ha, owes_of_ended (finish_alive _), finish_replies, finish_calls]
  simp only [taken] at hw ⊢
  omega

end Station

namespace Passage

variable {p : Passage}

/-- **A move makes up no debt to a caller**, unless it is a request of the caller. -/
theorem owes_le (hm : p.before.Moved p.move p.after p.notices) (hk : p.before.keeper.Sound)
    (c : Nat) :
    (p.answers c).length + p.after.owes c ≤
      p.before.owes c + if p.move.asker? = some c then 1 else 0 := by
  rw [length_answers]
  obtain ⟨s, m, s', ns⟩ := p
  change s.Moved m s' ns at hm
  change s.keeper.Sound at hk
  cases hm with
  | asked ha =>
    rw [Station.owes_of_alive ha, Station.owes_of_alive (by exact ha)]
    simp [replies, Move.asker?, List.countP_cons]
    omega
  | askedLate ha => simp [replies, Notice.reply?, Move.asker?, List.countP_cons, Nat.add_comm]
  | told ha =>
    rw [Station.owes_of_alive ha, Station.owes_of_alive (by exact ha)]
    simp [replies, Move.asker?, List.countP_cons]
    omega
  | released => exact Nat.le_of_eq (Nat.zero_add _)
  | returned ha ho ht =>
    exact Nat.le_trans (Nat.le_of_eq (Nat.zero_add _)) (Station.owes_returned ha ho ht c)
  | returnedLate ha ho ht => exact Station.owes_returnedLate ha ho ht c
  | handled he => exact Station.owes_handled hk he c
  | finished ha => exact Station.owes_finished ha c
  | toldLate => exact Nat.le_trans (Nat.le_of_eq (Nat.zero_add _)) (Nat.le_add_right ..)
  | _ => exact Nat.le_of_eq (Nat.zero_add _)

/-- An event takes the return that is handled off what is expected, and puts the calls on it. -/
theorem expects_of_event (hm : p.before.Moved p.move p.after p.notices) {e : Event}
    (he : p.event? = some e) (q : Ticket → Bool) :
    p.after.expects q + e.return?.toList.countP (q ·.ticket) =
      p.before.expects q + p.calls.countP (q ·.ticket) := by
  obtain ⟨s, m, s', ns⟩ := p
  change s.Moved m s' ns at hm
  cases hm with
  | @handled b e' he' =>
    obtain rfl := Option.some.inj (he'.symm.trans he)
    have hret := congrArg (List.countP (q ·.ticket)) (Station.returns_of_event? he')
    rw [List.countP_append] at hret
    simp only [Station.expects, calls, Station.handle_calls, Station.handle_called,
      Station.handle_returns, Station.taken_calls, List.countP_append]
    omega
  | finished _ he' => exact absurd (he'.symm.trans he) (by simp)
  | _ => cases he

/-- **A return that is handled is expected no more**, and only a call makes it expected. -/
theorem expects_le (hm : p.before.Moved p.move p.after p.notices) (q : Ticket → Bool) :
    p.after.expects q + (p.event?.bind Event.return?).toList.countP (q ·.ticket) ≤
      p.before.expects q + p.calls.countP (q ·.ticket) := by
  cases he : p.event? with
  | some e => exact Nat.le_of_eq (expects_of_event hm he q)
  | none =>
    rw [(quiet hm he).2, Option.bind_none, Option.toList_none, List.countP_nil, List.countP_nil]
    obtain ⟨s, m, s', ns⟩ := p
    change s.Moved m s' ns at hm
    cases hm with
    | @returned kind n r call ha ho ht =>
      have hw := Station.countP_withdraw ho (q ·.ticket)
      rw [← ht] at hw
      simp only [Station.expects, List.countP_append, List.countP_singleton]
      omega
    | @returnedLate kind n r call ha ho ht =>
      have hw := Station.countP_withdraw ho (q ·.ticket)
      simp only [Station.expects, Station.hangUp_calls, Station.hangUp_returns,
        Station.withdraw_returns]
      omega
    | handled he' => exact absurd (he'.symm.trans he) (by simp)
    | finished =>
      simp only [Station.expects, Station.finish_calls, Station.finish_returns, Station.taken,
        List.countP_nil]
      omega
    | _ => exact Nat.le_refl _

theorem expects_pos (hm : p.before.Moved p.move p.after p.notices) {r : Return}
    (he : p.event? = some (.returned r)) {q : Ticket → Bool} (hq : q r.ticket = true) :
    0 < p.before.expects q := by
  obtain ⟨s, m, s', ns⟩ := p
  change s.Moved m s' ns at hm
  cases hm with
  | @handled b e he' =>
    obtain rfl := Option.some.inj (he'.symm.trans he)
    have hret := Station.returns_of_event? he'
    dsimp only [Station.expects]
    rw [hret, Event.return?, Option.toList_some, List.singleton_append,
      List.countP_cons_of_pos (by exact hq)]
    omega
  | finished _ he' => exact absurd (he'.symm.trans he) (by simp)
  | _ => cases he

theorem mem_requests (hm : p.before.Moved p.move p.after p.notices) {c : Nat} {r : Request}
    (he : p.event? = some (.request c r)) : (c, r) ∈ p.before.requests := by
  obtain ⟨s, m, s', ns⟩ := p
  change s.Moved m s' ns at hm
  cases hm with
  | handled he' =>
    obtain rfl := Option.some.inj (he'.symm.trans he)
    dsimp only
    rw [Station.requests_of_event? he']
    exact List.mem_cons_self
  | finished _ he' => exact absurd (he'.symm.trans he) (by simp)
  | _ => cases he

end Passage

namespace Course

variable {set : Settings} {origin : Moment} {ps : List Passage} {s : Station}

/-- **Answers and debts are no more than requests.** -/
theorem answers_add_owes_le (h : Course set origin ps s) (c : Nat) :
    (answers c ps).length + s.owes c ≤ asks c ps := by
  induction h with
  | start => exact Nat.le_refl _
  | @next ps s m s' ns h _ hm ih =>
    have hp := Passage.owes_le (Station.moved_of_move hm) h.sound.1 c (p := ⟨s, m, s', ns⟩)
    dsimp only at hp
    rw [answers_append, answers_singleton, asks_append, List.length_append]
    simp only [asks, List.countP_singleton, beq_iff_eq] at ih ⊢
    omega

/-- Nobody never asks for more than the end of the monitor, and everyone else asks once. -/
theorem asks_le_one (h : Course set origin ps s) {c : Nat} (hc : c ≠ 0) : asks c ps ≤ 1 := by
  induction h with
  | start => exact Nat.zero_le _
  | @next ps s m s' ns _ hf _ ih =>
    rw [asks_append]
    by_cases hm : m.asker? = some c
    · have hz : asks c ps = 0 := by
        cases m with
        | ask c' r =>
          obtain rfl := Option.some.inj hm
          refine List.countP_eq_zero.2 fun p hp hask => hf.2.2 (List.mem_map.2 ⟨p, hp, ?_⟩)
          exact beq_iff_eq.1 hask
        | shutdown => exact absurd (Option.some.inj hm).symm hc
        | _ => cases hm
      simp [asks, hm] at hz ⊢
      omega
    · simpa [asks, hm] using ih

theorem length_answers_le (h : Course set origin ps s) {c : Nat} (hc : c ≠ 0) :
    (answers c ps).length ≤ 1 := by
  have := h.answers_add_owes_le c
  have := h.asks_le_one hc
  omega

theorem answers_eq_nil_of_owes (h : Course set origin ps s) {c : Nat} (hc : c ≠ 0)
    (ho : 0 < s.owes c) : answers c ps = [] := by
  have := h.answers_add_owes_le c
  have := h.asks_le_one hc
  exact List.length_eq_zero_iff.1 (by omega)

theorem answers_of_reply (h : Course set origin ps s) {p : Passage} (hp : p ∈ ps) {c : Nat}
    (hc : c ≠ 0) {r : Reply} (hr : (c, r) ∈ p.replies) :
    p.answers c = [r] ∧ answers c ps = [r] := by
  have hone : ∀ l : List Reply, l.length ≤ 1 → r ∈ l → l = [r] := by
    rintro (_ | ⟨a, _ | ⟨b, rest⟩⟩) hle hmem
    · cases hmem
    · rw [List.mem_singleton.1 hmem]
    · simp at hle
  obtain ⟨before, after, rfl⟩ := List.append_of_mem hp
  have hle := h.length_answers_le hc
  have hmem := Passage.mem_answers hr
  have hall : answers c (before ++ p :: after) =
      answers c before ++ (p.answers c ++ answers c after) := answers_append c before (p :: after)
  refine ⟨hone _ ?_ hmem, hone _ hle ?_⟩
  · rw [hall, List.length_append, List.length_append] at hle
    omega
  · rw [hall]
    exact List.mem_append_right _ (List.mem_append_left _ hmem)

theorem settles (h : Course set origin ps s) {p : Passage} (hp : p ∈ ps) {c : Nat} (hc : c ≠ 0)
    {r : Reply} (hr : p.replies = [(c, r)]) : p.Settles ps c r :=
  ⟨hr, (h.answers_of_reply hp hc (hr ▸ List.mem_cons_self)).2⟩

theorem answers_append_of_answered {p : Passage} (h : Course set origin (ps ++ [p]) s) {c : Nat}
    (hc : c ≠ 0) {r : Reply} (hr : answers c ps = [r]) : answers c (ps ++ [p]) = [r] := by
  have hle := h.length_answers_le hc
  rw [answers_append, answers_singleton, hr] at hle ⊢
  rw [List.length_append, List.length_singleton] at hle
  have hnil : p.answers c = [] := List.length_eq_zero_iff.1 (by omega)
  rw [hnil, List.append_nil]

theorem ne_zero_of_ask (h : Course set origin ps s) {c : Nat} {r : Request}
    (ha : .ask c r ∈ ps.map (·.move)) : c ≠ 0 := by
  obtain ⟨p, hp, hm⟩ := List.mem_map.1 ha
  obtain ⟨before, after, rfl⟩ := List.append_of_mem hp
  have hf : Fresh before p.move := h.upTo.2.1
  rw [hm] at hf
  exact hf.1

theorem ne_zero_of_mem_requests (h : Course set origin ps s) {c : Nat} {r : Request}
    (hr : (c, r) ∈ s.requests) (hns : r ≠ .shutdown) : c ≠ 0 := by
  induction h with
  | start => cases hr
  | @next ps s m s' ns _ hf hm ih =>
    cases Station.moved_of_move hm with
    | asked =>
      rcases List.mem_append.1 hr with hr | hr
      · exact ih hr
      · obtain ⟨rfl, rfl⟩ := by simpa using hr
        exact hf.1
    | told =>
      rcases List.mem_append.1 hr with hr | hr
      · exact ih hr
      · obtain ⟨-, rfl⟩ := by simpa using hr
        exact absurd rfl hns
    | handled he =>
      rw [Station.handle_requests] at hr
      exact ih (Station.requests_of_event? he ▸ List.mem_append_right _ hr)
    | finished => simp [Station.finish, Station.hangUp] at hr
    | returnedLate => exact ih (by simpa [Station.hangUp] using hr)
    | _ => exact ih hr

theorem ne_zero_of_request (h : Course set origin ps s) {p : Passage} (hp : p ∈ ps) {c : Nat}
    {r : Request} (he : p.event? = some (.request c r)) (hr : r ≠ .shutdown) : c ≠ 0 := by
  obtain ⟨before, after, rfl⟩ := List.append_of_mem hp
  exact h.upTo.1.ne_zero_of_mem_requests (Passage.mem_requests h.moved he) hr

end Course

end Overseer.Monitor
