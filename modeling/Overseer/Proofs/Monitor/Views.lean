import Mathlib.Data.List.DropRight
import Mathlib.Data.List.Infix
import Overseer.Proofs.Monitor.Journal
import Overseer.Proofs.Monitor.Starts

/-!
# What a view shows

Requests, returns of calls and log events wait in three queues, and the monitor takes from whichever
it likes.  Each queue by itself keeps its order (`Course.queues`), and nothing ties one to another:
a view shows what was asked for before it, and of the returns and log events only those that were
taken in time.

* `Course.queues` : what was put into a queue is what was taken out of it, and then what waits.
* `Course.logged_eq` : how many log lines a view counts.
* `Course.view_shows` : what a view shows that a caller has asked for.
* `Course.view_misses_queued` : it can miss what was queued long before it was asked for.
-/

namespace Overseer.Monitor

open Overseer.Batch Overseer.Time

/-! ### Queues -/

/-- The request that is put into the queue. -/
def Move.request? : Move → Option (Nat × Request)
  | .ask c r => some (c, r)
  | .shutdown => some (0, .shutdown)
  | _ => none

/-- The return that is put into the queue. -/
def Move.return? : Move → Option Return
  | .giveBack _ _ r => some r
  | _ => none

/-- The log event that is put into the queue. -/
def Move.log? : Move → Option LogEvent
  | .emit e => some e
  | _ => none

variable {α : Type}

/-- What was put into a queue, in order. -/
def puts (f : Move → Option α) (ps : List Passage) : List α := ps.filterMap fun p => f p.move

/-- What was taken out of a queue, in order. -/
def takes (f : Event → Option α) (ps : List Passage) : List α :=
  ps.filterMap fun p => p.event?.bind f

theorem puts_append (f : Move → Option α) (a b : List Passage) :
    puts f (a ++ b) = puts f a ++ puts f b := List.filterMap_append

theorem takes_append (f : Event → Option α) (a b : List Passage) :
    takes f (a ++ b) = takes f a ++ takes f b := List.filterMap_append

theorem puts_singleton (f : Move → Option α) (p : Passage) : puts f [p] = (f p.move).toList := by
  cases h : f p.move <;> simp [puts, h]

theorem takes_singleton (f : Event → Option α) (p : Passage) :
    takes f [p] = (p.event?.bind f).toList := by
  cases h : p.event?.bind f <;> simp [takes, h]

/-- Whatever was put into a queue was taken out of it or waits there, in the same order. -/
structure Queues (ps : List Passage) (s : Station) : Prop where
  requests : puts Move.request? ps = takes Event.request? ps ++ s.requests
  returns : puts Move.return? ps = takes Event.return? ps ++ s.returns
  logs : puts Move.log? ps = takes Event.log? ps ++ s.logs

/-- What a move puts into a queue comes behind what waits, and what is taken was first. -/
theorem Passage.queues {p : Passage} (hm : p.before.Moved p.move p.after p.notices)
    (ha : p.after.alive = true) :
    p.before.requests ++ (Move.request? p.move).toList =
        (p.event?.bind Event.request?).toList ++ p.after.requests ∧
      p.before.returns ++ (Move.return? p.move).toList =
        (p.event?.bind Event.return?).toList ++ p.after.returns ∧
      p.before.logs ++ (Move.log? p.move).toList =
        (p.event?.bind Event.log?).toList ++ p.after.logs := by
  obtain ⟨s, m, s', ns⟩ := p
  change s.Moved m s' ns at hm
  change s'.alive = true at ha
  cases hm with
  | handled he =>
    simp only [event?, he, Option.bind_some, Station.handle_requests, Station.handle_returns,
      Station.handle_logs, Move.request?, Move.return?, Move.log?, Option.toList_none,
      List.append_nil]
    exact ⟨Station.requests_of_event? he, Station.returns_of_event? he, Station.logs_of_event? he⟩
  | askedLate hd | toldLate hd | emittedLate hd => simp [hd] at ha
  | returnedLate hd => simp [Station.withdraw, hd] at ha
  | finished => simp at ha
  | _ => simp [event?, Move.request?, Move.return?, Move.log?, Station.withdraw, Station.release]

theorem puts_eq_append {f : Move → Option α} {g : Event → Option α} {ps : List Passage}
    {p : Passage} {a b : List α} (h : puts f ps = takes g ps ++ a)
    (hp : a ++ (f p.move).toList = (p.event?.bind g).toList ++ b) :
    puts f (ps ++ [p]) = takes g (ps ++ [p]) ++ b := by
  rw [puts_append, takes_append, puts_singleton, takes_singleton, h, List.append_assoc, hp,
    List.append_assoc]

namespace Course

variable {set : Settings} {origin : Moment} {ps : List Passage} {s : Station}

/-- **A queue keeps its order** while the monitor is at work. -/
theorem queues (h : Course set origin ps s) (ha : s.alive = true) : Queues ps s := by
  induction h with
  | start => exact ⟨rfl, rfl, rfl⟩
  | @next ps s m s' ns h hf hm ih =>
    have hmv : (Passage.mk s m s' ns).before.Moved m s' ns := Station.moved_of_move hm
    obtain ⟨hq, hr, hl⟩ := Passage.queues hmv ha
    have ih := ih (hmv.alive_of_alive ha)
    exact ⟨puts_eq_append ih.requests hq, puts_eq_append ih.returns hr, puts_eq_append ih.logs hl⟩

end Course

/-! ### Log lines -/

/-- A run begins: the engine is asked to start it. -/
def Passage.begins (p : Passage) : Bool := p.calls.any fun c => c.start?.isSome

/-- The passages since a run began. -/
def sinceStart (ps : List Passage) : List Passage := ps.rtakeWhile fun p => !p.begins

/-- What an event does to the journal: a run that begins clears it, a log event is put into it, and
nothing else changes it. -/
theorem Keeper.Step.journal {k k' : Keeper} {now : Nat} {e : Event} {l : List Effect}
    (hs : k.Step now e k' l) :
    (l.filterMap Effect.call?).any (fun c => c.start?.isSome) = true ∧ e.log? = none ∧
        k'.board.journal = k.board.journal.clear ∨
      (l.filterMap Effect.call?).any (fun c => c.start?.isSome) = false ∧
        (e.log? = none ∧ k'.board.journal = k.board.journal ∨
          ∃ x at_, e = .log x at_ ∧ k'.board.journal = k.board.journal.append x at_) := by
  cases hs with
  | start => exact .inl ⟨rfl, rfl, rfl⟩
  | logged | heldBack => exact .inr ⟨rfl, .inr ⟨_, _, rfl, rfl⟩⟩
  | closed =>
    refine .inr ⟨?_, .inr ⟨_, _, rfl, rfl⟩⟩
    simp [Effect.call?, Call.start?, List.filterMap_cons]
  | takenOver | refused | expired | expiredIdle =>
    refine .inr ⟨?_, .inl ⟨rfl, rfl⟩⟩
    simp [Effect.call?, Call.start?, List.filterMap_cons]
  | pollFailed | pollLate =>
    exact .inr ⟨rfl, .inl ⟨rfl, congrArg Board.journal (answeredPoll_board k _ _)⟩⟩
  | _ => exact .inr ⟨rfl, .inl ⟨rfl, rfl⟩⟩

namespace Course

variable {set : Settings} {origin : Moment} {ps : List Passage} {s : Station}

/-- **The log lines that are kept or were dropped are those that were taken since the run
began.** -/
theorem logged_eq (h : Course set origin ps s) :
    1 ≤ s.keeper.board.journal.capacity ∧
      s.keeper.board.journal.count = (takes Event.log? (sinceStart ps)).length := by
  induction h with
  | start => exact ⟨Nat.le_max_right .., rfl⟩
  | @next ps s m s' ns h hf hm ih =>
    obtain ⟨hc, ih⟩ := ih
    have hmv : (Passage.mk s m s' ns).before.Moved m s' ns := Station.moved_of_move hm
    have hsince : sinceStart (ps ++ [⟨s, m, s', ns⟩]) =
        if (Passage.mk s m s' ns).begins then [] else sinceStart ps ++ [⟨s, m, s', ns⟩] := by
      rw [sinceStart, List.rtakeWhile_concat]
      cases (Passage.mk s m s' ns).begins <;> rfl
    rw [hsince]
    cases he : (Passage.mk s m s' ns).event? with
    | none =>
      obtain ⟨hk, hcalls⟩ := Passage.quiet hmv he
      have hk : s'.keeper = s.keeper := hk
      rw [hk, Passage.begins, hcalls, List.any_nil, if_neg Bool.false_ne_true, takes_append,
        takes_singleton, he]
      exact ⟨hc, ih.trans (by simp)⟩
    | some e =>
      obtain ⟨l, hs, -, hcalls⟩ := Passage.step hmv h.sound.1 he
      rw [Passage.begins, hcalls]
      rcases hs.journal with ⟨hb, -, hj⟩ | ⟨hb, ⟨hn, hj⟩ | ⟨x, at_, rfl, hj⟩⟩
      · rw [show s'.keeper.board.journal = _ from hj, hb]
        exact ⟨hc, rfl⟩
      · rw [show s'.keeper.board.journal = _ from hj, hb, if_neg Bool.false_ne_true, takes_append,
          takes_singleton, he, Option.bind_some, hn]
        exact ⟨hc, ih.trans (by simp)⟩
      · rw [show s'.keeper.board.journal = _ from hj, hb, if_neg Bool.false_ne_true, takes_append,
          takes_singleton, he, Journal.count_append _ hc]
        exact ⟨hc, (congrArg (· + 1) ih).trans (by simp [Event.log?])⟩

end Course

/-! ### Views -/

/-- What a view shows that is asked for in `q` and answered in `p`, with the passages before `q` and
those between the two. -/
structure Shows (set : Settings) (before : List Passage) (q : Passage) (between : List Passage)
    (p : Passage) (v : View) : Prop where
  /-- It is what the events come to that were handled so far. -/
  current : v = ((Keeper.initial set).run (handled (before ++ q :: between))).1.board.view
  /-- The requests among them are those that were made before, and no later ones. -/
  requests : takes Event.request? (before ++ q :: between) = puts Move.request? before
  /-- The other returns still wait. -/
  returns : takes Event.return? (before ++ q :: between) ++ p.before.returns =
    puts Move.return? (before ++ q :: between)
  /-- The other log events still wait. -/
  logs : takes Event.log? (before ++ q :: between) ++ p.before.logs =
    puts Move.log? (before ++ q :: between)
  /-- The returns from before are among them exactly if those that wait came later. -/
  returned : puts Move.return? before <+: takes Event.return? (before ++ q :: between) ↔
    p.before.returns.length ≤ (puts Move.return? between).length
  /-- The log events from before are among them exactly if those that wait came later. -/
  logged : puts Move.log? before <+: takes Event.log? (before ++ q :: between) ↔
    p.before.logs.length ≤ (puts Move.log? between).length
  /-- The log lines that it counts are those that were handled since the run began. -/
  counted : v.logLength + v.logEvicted =
    (takes Event.log? (sinceStart (before ++ q :: between))).length
  /-- To show it changes nothing. -/
  idles : p.Idles

theorem Keeper.Step.view_of_reply {k k' : Keeper} {now : Nat} {e : Event} {l : List Effect}
    (hs : k.Step now e k' l) {c : Nat} {v : View} (hv : (c, .view v) ∈ l.filterMap Effect.reply?) :
    e = .request c .view ∧ v = k.board.view ∧ k' = k ∧ l.filterMap Effect.call? = [] := by
  cases hs with
  | view =>
    obtain ⟨rfl, rfl⟩ : c = _ ∧ v = _ := by simpa [Effect.reply?] using hv
    exact ⟨rfl, rfl, rfl, rfl⟩
  | expired | expiredIdle =>
    unfold Keeper.lateReply at hv
    split at hv <;> simp [Effect.reply?, List.filterMap_cons] at hv
  | _ => simp [Effect.reply?, List.filterMap_cons] at hv

theorem Passage.view_of_reply {p : Passage} (hm : p.before.Moved p.move p.after p.notices)
    (hk : p.before.keeper.Sound) {c : Nat} {v : View} (hv : (c, .view v) ∈ p.replies) :
    p.event? = some (.request c .view) ∧ v = p.before.keeper.board.view ∧ p.Idles := by
  cases he : p.event? with
  | some e =>
    obtain ⟨l, hs, hreplies, hcalls⟩ := Passage.step hm hk he
    rw [hreplies] at hv
    obtain ⟨rfl, hview, hkeep, hnone⟩ := hs.view_of_reply hv
    exact ⟨rfl, hview, hkeep, hcalls.trans hnone⟩
  | none =>
    -- without an event, callers are told at most that the monitor is gone
    obtain ⟨s, m, s', ns⟩ := p
    change s.Moved m s' ns at hm
    change (c, .view v) ∈ ns.filterMap Notice.reply? at hv
    cases hm with
    | handled he' => exact absurd (he'.symm.trans he) (by simp)
    | finished => simp [Station.finish_replies] at hv
    | returnedLate => simp [Station.hangUp_replies] at hv
    | _ => simp [Notice.reply?] at hv

/-- What was put into a queue first was taken out of it exactly if what waits came later. -/
theorem prefix_takes_iff {first later taken waiting : List α}
    (h : first ++ later = taken ++ waiting) :
    first <+: taken ↔ waiting.length ≤ later.length := by
  have hlen := congrArg List.length h
  rw [List.length_append, List.length_append] at hlen
  constructor
  · intro hp
    have := hp.length_le
    omega
  · intro hle
    refine List.prefix_of_prefix_length_le ⟨later, h⟩ (List.prefix_append ..) ?_
    omega

theorem puts_cons (f : Move → Option α) (p : Passage) (ps : List Passage) :
    puts f (p :: ps) = (f p.move).toList ++ puts f ps := by
  rw [← puts_singleton, ← puts_append, List.singleton_append]

theorem not_mem_puts {c : Nat} {r : Request} {ps : List Passage} (ha : asks c ps = 0) :
    (c, r) ∉ puts Move.request? ps := by
  intro hmem
  obtain ⟨p, hp, hr⟩ := List.mem_filterMap.1 hmem
  refine List.countP_eq_zero.1 ha p hp ?_
  cases hm : p.move with
  | ask | shutdown =>
    rw [hm] at hr
    cases hr
    exact beq_self_eq_true _
  | _ => simp [hm, Move.request?] at hr

namespace Course

variable {set : Settings} {origin : Moment} {before between after : List Passage} {q p : Passage}
  {s : Station} {c : Nat} {v : View}

/-- **A view shows what was asked for before it**, and of what waited in the other queues only what
was taken in time. -/
theorem view_shows (h : Course set origin (before ++ q :: (between ++ p :: after)) s)
    (hq : q.move = .ask c .view) (hv : (c, .view v) ∈ p.replies) :
    Shows set before q between p v := by
  have hps : before ++ q :: (between ++ p :: after) = before ++ q :: between ++ p :: after := by
    simp
  rw [hps] at h
  have hnow := h.upTo.1
  obtain ⟨he, rfl, hidle⟩ := Passage.view_of_reply h.moved hnow.sound.1 hv
  obtain ⟨ha, ha'⟩ := Passage.alive_of_event h.moved he
  have hwas := hnow.queues ha
  have hreturns := hwas.returns
  have hlogs := hwas.logs
  have hrequests := hwas.requests
  rw [puts_append, puts_cons, hq] at hreturns hlogs hrequests
  -- the request for the view is the first one that waits, and there is no other one of its caller
  have hfirst : p.before.requests = (c, .view) :: p.after.requests := by
    have hmove : Move.request? p.move = none := by
      unfold Passage.event? at he
      split at he
      · next hm => rw [hm]; rfl
      · cases he
    have hall := (Passage.queues h.moved ha').1
    rwa [hmove, he, Option.toList_none, List.append_nil] at hall
  have hc : c ≠ 0 := hnow.ne_zero_of_ask (r := .view) (by simp [hq])
  have hone := hnow.asks_le_one hc
  rw [asks_append, show q :: between = [q] ++ between from rfl, asks_append] at hone
  have hasked : asks c [q] = 1 := by simp [asks, hq, Move.asker?]
  rw [hfirst] at hrequests
  obtain ⟨hbefore, -⟩ := (List.append_cons_inj_of_notMem (not_mem_puts (by omega))
    (not_mem_puts (by omega))).1 hrequests
  exact {
    current := by rw [hnow.keeper_eq_run]
    requests := hbefore.symm
    returns := hwas.returns.symm
    logs := hwas.logs.symm
    returned := prefix_takes_iff hreturns
    logged := prefix_takes_iff hlogs
    counted := hnow.logged_eq.2
    idles := hidle }

/-- The accounts come and a log line, then somebody asks for a view, and then there is another log
line. -/
def crowdedQueues : List Move := [
  .ask 1 .load, .fire .request, .giveBack .load 1 (.loaded 1 (.ok [⟨"a", "A"⟩])),
  .emit ⟨"a", "one", .info, none⟩, .ask 2 .view, .emit ⟨"a", "two", .info, none⟩]

/-- A view that was asked for when the accounts and a log line had come shows the accounts, but not
the log line. -/
theorem view_shows_of_crowded_queues :
    ∃ before q between p s v,
      Course .default ⟨0, 0⟩ (before ++ q :: (between ++ p :: [])) s ∧ q.move = .ask 2 .view ∧
      (2, .view v) ∈ p.replies ∧ Shows .default before q between p v ∧
      v.rows.map (·.id) = ["a"] ∧ v.logLength + v.logEvicted = 0 := by
  obtain ⟨p₁, p₂, p₃, p₄, q, p₅, p₆, p, s, v, hplay, hq, hv, hrows, hcount⟩ :
      ∃ p₁ p₂ p₃ p₄ q p₅ p₆ p s v,
        play .default ⟨0, 0⟩ (crowdedQueues ++ [.fire .returned, .fire .request]) =
          some ([p₁, p₂, p₃, p₄] ++ q :: ([p₅, p₆] ++ p :: []), s) ∧
        q.move = .ask 2 .view ∧ p.replies = [(2, .view v)] ∧ v.rows.map (·.id) = ["a"] ∧
        v.logLength + v.logEvicted = 0 :=
    ⟨_, _, _, _, _, _, _, _, _, _, rfl, rfl, rfl, rfl, rfl⟩
  have hmem : (2, .view v) ∈ p.replies := hv ▸ List.mem_cons_self
  exact ⟨_, q, _, p, s, v, of_play hplay, hq, hmem, (of_play hplay).view_shows hq hmem, hrows,
    hcount⟩

/-- **A view can miss what was queued before it was asked for**: the accounts of a load that has
returned, and a log line that the monitor was to take. -/
theorem view_misses_queued :
    ∃ before q between p s v,
      Course .default ⟨0, 0⟩ (before ++ q :: (between ++ p :: [])) s ∧ q.move = .ask 2 .view ∧
      (2, .view v) ∈ p.replies ∧
      puts Move.return? before = [.loaded 1 (.ok [⟨"a", "A"⟩])] ∧
      puts Move.log? before = [⟨"a", "one", .info, none⟩] ∧
      v.rows = [] ∧ v.logLength + v.logEvicted = 0 := by
  obtain ⟨p₁, p₂, p₃, p₄, q, p₅, p, s, v, hplay, hq, hv, hreturn, hlog, hrows, hcount⟩ :
      ∃ p₁ p₂ p₃ p₄ q p₅ p s v,
        play .default ⟨0, 0⟩ (crowdedQueues ++ [.fire .request]) =
          some ([p₁, p₂, p₃, p₄] ++ q :: ([p₅] ++ p :: []), s) ∧
        q.move = .ask 2 .view ∧ p.replies = [(2, .view v)] ∧
        puts Move.return? [p₁, p₂, p₃, p₄] = [.loaded 1 (.ok [⟨"a", "A"⟩])] ∧
        puts Move.log? [p₁, p₂, p₃, p₄] = [⟨"a", "one", .info, none⟩] ∧
        v.rows = [] ∧ v.logLength + v.logEvicted = 0 :=
    ⟨_, _, _, _, _, _, _, _, _, rfl, rfl, rfl, rfl, rfl, rfl, rfl⟩
  exact ⟨_, q, _, p, s, v, of_play hplay, hq, hv ▸ List.mem_cons_self, hreturn, hlog, hrows, hcount⟩

end Course

end Overseer.Monitor
