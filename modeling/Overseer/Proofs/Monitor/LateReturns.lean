import Overseer.Proofs.Monitor.Keeper

/-!
# Late returns

A return is **late** when it is about another run than the current one.  `Keeper.handle_late`
says that a monitor does nothing about a late return, except that it answers the caller whose start
it is, and that the timer may forget a question which it put in an earlier run.

That note of the timer is the one trace a late return leaves, and nothing that comes later depends
on it: two monitors that differ in notes about earlier runs only (`Keeper.Twin`) do the same about
everything that is not late (`Twin.handle`).  Hence a history without its late returns
(`Keeper.punctual`) goes as the whole history does (`late_returns_change_nothing`).
-/

namespace Overseer.Monitor

open Overseer.Batch Overseer.Time

/-- The run that a return is about. -/
def Return.run? : Return → Option Nat
  | .loaded .. => none
  | .started _ e _ | .stopped e _ | .polled e _ _ => some e

/-- What the caller of a start is told when the start returns. -/
def Return.ownReply : Return → List Effect
  | .started c e (.ok _) => [.reply c (.epoch e)]
  | .started c _ (.error err) => [.reply c (.error (.ofRemote err))]
  | _ => []

namespace Keeper

variable {k k' : Keeper} {now : Nat}

/-- The event is a return about another run than the current one. -/
def late (k : Keeper) : Event → Bool
  | .returned r => r.run?.any (· != k.board.epoch)
  | _ => false

/-- The monitor with another note of the timer's last question. -/
def withTimer (k : Keeper) (t : Option Nat) : Keeper := { k with timerPoll := t }

/-- The monitor without the note of the timer's last question. -/
def untimed (k : Keeper) : Keeper := k.withTimer none

@[simp] theorem withTimer_board (k : Keeper) (t : Option Nat) : (k.withTimer t).board = k.board :=
  rfl
@[simp] theorem withTimer_timerPoll (k : Keeper) (t : Option Nat) :
    (k.withTimer t).timerPoll = t := rfl
@[simp] theorem untimed_withTimer (k : Keeper) (t : Option Nat) :
    (k.withTimer t).untimed = k.untimed := rfl

/-! ### What is done about a late return -/

theorem answeredPoll_eq_withTimer (k : Keeper) (e : Nat) (sch : Bool) :
    k.answeredPoll e sch = k.withTimer (k.answeredPoll e sch).timerPoll := by
  unfold answeredPoll
  split <;> rfl

theorem Step.late {r : Return} {n : Nat} {l : List Effect} (hs : k.Step now (.returned r) k' l)
    (hr : r.run? = some n) (hn : n ≠ k.board.epoch) :
    k' = k.withTimer k'.timerPoll ∧ (∀ e, k'.timerPoll = some e → k.timerPoll = some e) ∧
      (∀ e, k.timerPoll = some e → k'.timerPoll ≠ some e → e = n) ∧ l = r.ownReply := by
  cases hs with
  | loadFailed | loadLate | loaded => cases hr
  | takenTwice | taken | takenOver | refused | stopFailed | polled | polledSame =>
    cases hr
    exact absurd rfl hn
  | takenLate | refusedLate | stopTaken | stopFailedLate =>
    exact ⟨rfl, fun _ h => h, fun _ h h' => absurd h h', rfl⟩
  | pollFailed | pollLate =>
    cases hr
    refine ⟨answeredPoll_eq_withTimer .., fun _ h => answeredPoll_timerPoll h, ?_, rfl⟩
    intro e he hne
    unfold answeredPoll at hne
    split at hne
    · rename_i hc
      exact Option.some.inj (he.symm.trans hc.2)
    · exact absurd he hne

/-- **A late return leaves all but the timer's note as it was**, and nothing is done about it but
to answer the caller whose start it is. -/
theorem handle_late {r : Return} {n : Nat} (now : Nat) (hk : k.Sound) (hr : r.run? = some n)
    (hn : n ≠ k.board.epoch) :
    (k.handle now (.returned r)).1 = k.withTimer (k.handle now (.returned r)).1.timerPoll ∧
      (k.handle now (.returned r)).2 = r.ownReply := by
  have h := (step_handle hk.gated now (.returned r)).late hr hn
  exact ⟨h.1, h.2.2.2⟩

/-! ### Monitors that differ in old notes only -/

/-- Two notes say the same about the runs from number `n` on. -/
def Agree (n : Nat) (a b : Option Nat) : Prop := ∀ e, n ≤ e → (a = some e ↔ b = some e)

theorem Agree.mono {n m : Nat} {a b : Option Nat} (h : Agree n a b) (hm : n ≤ m) : Agree m a b :=
  fun e he => h e (Nat.le_trans hm he)

/-- `k'` is `k` but for notes of the timer about earlier runs. -/
structure Twin (k k' : Keeper) : Prop where
  /-- All but the timer's note is the same. -/
  same : k' = k.withTimer k'.timerPoll
  /-- The notes say the same about this run and those to come. -/
  agree : Agree k.board.epoch k.timerPoll k'.timerPoll

theorem twin_refl (k : Keeper) : Twin k k := ⟨rfl, fun _ _ => Iff.rfl⟩

/-- What happens to a monitor whose timer has no part in it does not depend on the timer's
note, and keeps it. -/
theorem handle_withTimer_of_untouched {e : Event} (k : Keeper) (now : Nat) (t : Option Nat)
    (htick : e ≠ .tick)
    (hpoll : ∀ n sch res, e ≠ .returned (.polled n sch res)) :
    (k.withTimer t).handle now e = ((k.handle now e).1.withTimer t, (k.handle now e).2) ∧
      (k.handle now e).1.timerPoll = k.timerPoll := by
  cases e with
  | tick => exact absurd rfl htick
  | deadline =>
    rcases hx : k.board.forceIdle with ⟨b, ended⟩
    cases ended <;>
      simp [handle, expire, Keeper.withTimer, hx, Turn.andThen, ask, publish, release]
  | log x at_ =>
    rcases hx : k.board.ingest x at_ with ⟨b, en, ended⟩
    cases ended <;>
      simp [handle, Keeper.ingest, Keeper.withTimer, hx, Turn.andThen, finished, ask, publish,
        release]
  | request c r =>
    cases r with
    | load =>
      cases hl : k.board.lifecycle.isIdle <;>
        simp [handle, answer, Keeper.load, Keeper.withTimer, hl]
    | start p =>
      simp only [handle, answer, Keeper.start, withTimer]
      split <;> exact ⟨rfl, rfl⟩
    | stop =>
      simp only [handle, answer, Keeper.stop, withTimer]
      split <;> exact ⟨rfl, rfl⟩
    | view => exact ⟨rfl, rfl⟩
    | shutdown => exact ⟨rfl, rfl⟩
  | returned r =>
    cases r with
    | polled n sch res => exact absurd rfl (hpoll n sch res)
    | loaded c res =>
      cases res with
      | error err => exact ⟨rfl, rfl⟩
      | ok l =>
        simp only [handle, takeReturn, Keeper.loaded, withTimer]
        split <;> exact ⟨rfl, rfl⟩
    | stopped n res =>
      cases res with
      | ok u => exact ⟨rfl, rfl⟩
      | error err =>
        by_cases h : k.board.epoch = n ∧ k.waiters ≠ [] <;>
          simp [handle, takeReturn, stopAnswered, Keeper.withTimer, h]
    | started c n res =>
      cases res with
      | ok u =>
        rcases hx : k.board.acknowledge n with ⟨b, ended⟩
        cases ended with
        | true =>
          simp [handle, takeReturn, startTaken, Keeper.withTimer, hx, Turn.andThen, finished, ask,
            publish, release]
        | false =>
          by_cases hb : b.epoch = n ∧ b.lifecycle.isIdle = false <;>
            simp [handle, takeReturn, startTaken, Keeper.withTimer, hx, Turn.andThen, ask, hb]
      | error err =>
        rcases hx : k.board.rollback n err.message with ⟨b, ended⟩
        cases ended <;>
          simp [handle, takeReturn, startRefused, Keeper.withTimer, hx, Turn.andThen, publish,
            release]

theorem Twin.tick {t : Option Nat} (h : Agree k.board.epoch k.timerPoll t) :
    Twin (k.tick now).1 ((k.withTimer t).tick now).1 ∧
      ((k.withTimer t).tick now).2 = (k.tick now).2 := by
  have hiff := h k.board.epoch (Nat.le_refl _)
  by_cases ht : k.timerPoll = some k.board.epoch
  · have ht' := hiff.1 ht
    simp only [Keeper.tick, askByTimer, Keeper.withTimer, ht, ht', ↓reduceIte, and_true]
    exact twin_refl _
  · have ht' : t ≠ some k.board.epoch := fun h' => ht (hiff.2 h')
    simp only [Keeper.tick, askByTimer, Keeper.withTimer, ht, ht', ↓reduceIte, and_true]
    exact twin_refl _

theorem Twin.polled {t : Option Nat} (h : Agree k.board.epoch k.timerPoll t) (sch : Bool)
    (res : Except RemoteError Snapshot) :
    Twin (k.polled k.board.epoch sch res).1 ((k.withTimer t).polled k.board.epoch sch res).1 ∧
      ((k.withTimer t).polled k.board.epoch sch res).2 = (k.polled k.board.epoch sch res).2 := by
  have hiff := h k.board.epoch (Nat.le_refl _)
  -- the answer clears the same note on either side, or none
  obtain ⟨u, u', hu, hu', hagree⟩ : ∃ u u',
      k.answeredPoll k.board.epoch sch = k.withTimer u ∧
      (k.withTimer t).answeredPoll k.board.epoch sch = k.withTimer u' ∧
      Agree k.board.epoch u u' := by
    by_cases hc : sch = true ∧ k.timerPoll = some k.board.epoch
    · have hc' : sch = true ∧ (k.withTimer t).timerPoll = some k.board.epoch :=
        ⟨hc.1, hiff.1 hc.2⟩
      exact ⟨none, none, if_pos hc, if_pos hc', fun _ _ => Iff.rfl⟩
    · have hc' : ¬(sch = true ∧ (k.withTimer t).timerPoll = some k.board.epoch) :=
        fun h' => hc ⟨h'.1, hiff.2 h'.2⟩
      exact ⟨k.timerPoll, t, if_neg hc, if_neg hc', h⟩
  rw [polled_eq, polled_eq, hu, withTimer_board, hu']
  cases res with
  | error err => exact ⟨⟨rfl, hagree⟩, rfl⟩
  | ok s =>
    dsimp only
    rw [Board.applyPoll_current s rfl]
    dsimp only
    split
    · exact ⟨⟨rfl, hagree⟩, rfl⟩
    · exact ⟨⟨rfl, hagree⟩, rfl⟩

/-- **Twins do the same about everything that is not late**, and stay twins. -/
theorem Twin.handle {e : Event} (now : Nat) (hk : k.Sound) (ht : Twin k k')
    (hl : k.late e = false) :
    Twin (k.handle now e).1 (k'.handle now e).1 ∧ (k'.handle now e).2 = (k.handle now e).2 := by
  obtain ⟨hsame, hagree⟩ := ht
  rw [hsame]
  -- only the timer and the answers to its questions look at the note
  by_cases htick : e = .tick
  · subst htick
    exact Twin.tick hagree
  by_cases hpoll : ∃ n sch res, e = .returned (.polled n sch res)
  · obtain ⟨n, sch, res, rfl⟩ := hpoll
    obtain rfl : n = k.board.epoch := by simpa [late, Return.run?] using hl
    exact Twin.polled hagree sch res
  · have h := handle_withTimer_of_untouched k now k'.timerPoll htick
      fun n sch res he => hpoll ⟨n, sch, res, he⟩
    have hmono := (step_handle hk.gated now e).epoch_le
    rw [h.1]
    refine ⟨⟨rfl, ?_⟩, rfl⟩
    rw [h.2]
    exact hagree.mono hmono

theorem Twin.handle_late {e : Event} (hk : k.Sound) (ht : Twin k k') (hl : k.late e = true) :
    Twin (k.handle now e).1 k' := by
  obtain ⟨hsame, hagree⟩ := ht
  cases e with
  | returned r =>
    obtain ⟨n, hr, hn⟩ : ∃ n, r.run? = some n ∧ n ≠ k.board.epoch := by
      simpa [late, Option.any_eq_true] using hl
    obtain ⟨h1, h2, h3, -⟩ := (step_handle hk.gated now (.returned r)).late hr hn
    rw [h1]
    refine ⟨hsame, fun e he => ⟨fun h => (hagree e he).1 (h2 e h), fun h => ?_⟩⟩
    -- a forgotten note is about an earlier run: the timer asks about no run to come
    have hk' := (hagree e he).2 h
    by_cases hne : (k.handle now (.returned r)).1.timerPoll = some e
    · exact hne
    · obtain rfl := h3 e hk' hne
      exact absurd (Nat.le_antisymm (hk.timer hk') he) hn
  | request | log | tick | deadline => cases hl

/-! ### Histories without late returns -/

/-- What happened to a monitor at one time: the event, with the monitor before it and the turn
that it took. -/
structure Scene where
  before : Keeper
  time : Nat
  event : Event
  after : Keeper
  effects : List Effect

/-- The event of the scene is a late return. -/
def Scene.late (x : Scene) : Bool := x.before.late x.event

/-- The scene without the timer's notes. -/
def Scene.untimed (x : Scene) : Scene :=
  { x with before := x.before.untimed, after := x.after.untimed }

/-- The scenes of a history, in order. -/
def scenes (k : Keeper) : List (Nat × Event) → List Scene
  | [] => []
  | (now, e) :: rest =>
    ⟨k, now, e, (k.handle now e).1, (k.handle now e).2⟩ :: (k.handle now e).1.scenes rest

/-- A history without its late returns. -/
def punctual (k : Keeper) : List (Nat × Event) → List (Nat × Event)
  | [] => []
  | (now, e) :: rest =>
    if k.late e then (k.handle now e).1.punctual rest
    else (now, e) :: (k.handle now e).1.punctual rest

theorem Twin.punctual (hk : k.Sound) (ht : Twin k k') (h : List (Nat × Event)) :
    (k'.scenes (k.punctual h)).map Scene.untimed =
        ((k.scenes h).filter fun x => !x.late).map Scene.untimed ∧
      Twin (k.run h).1 (k'.run (k.punctual h)).1 := by
  induction h generalizing k k' with
  | nil => exact ⟨rfl, ht⟩
  | cons x rest ih =>
    obtain ⟨now, e⟩ := x
    cases hl : k.late e with
    | true =>
      have h := ih (hk.handle now e) (ht.handle_late hk hl)
      simpa [scenes, Keeper.punctual, Scene.late, hl, run, Turn.andThen] using h
    | false =>
      obtain ⟨htw, heff⟩ := ht.handle now hk hl
      have h := ih (hk.handle now e) htw
      have hb : k'.untimed = k.untimed := by rw [ht.same, untimed_withTimer]
      have ha : (k'.handle now e).1.untimed = (k.handle now e).1.untimed := by
        rw [htw.same, untimed_withTimer]
      simpa [scenes, Keeper.punctual, Scene.late, Scene.untimed, hl, run, Turn.andThen, hb, ha,
        heff] using h

/-- **Late returns change nothing.**  After any history, whatever the order of its events:

* a return about another run leaves the board (roster, journal, run and gate), the published view,
  those who wait for a stop, their deadline and the reason of a failed stop as they were, and the
  monitor does nothing but answer the caller of a start that returns;
* without all such returns, the history goes as before: every event finds the same monitor, leads
  to the same monitor and brings the same replies, calls and views, except that the timer may have
  other notes about its last question, on which nothing that is done depends. -/
theorem late_returns_change_nothing (s : Settings) (h : List (Nat × Event)) :
    (∀ now r n, r.run? = some n → n ≠ ((initial s).run h).1.board.epoch →
      (((initial s).run h).1.handle now (.returned r)).1.untimed = ((initial s).run h).1.untimed ∧
        (((initial s).run h).1.handle now (.returned r)).2 = r.ownReply) ∧
      ((initial s).scenes ((initial s).punctual h)).map Scene.untimed =
        (((initial s).scenes h).filter fun x => !x.late).map Scene.untimed ∧
      ((initial s).run ((initial s).punctual h)).1.untimed = ((initial s).run h).1.untimed := by
  obtain ⟨hscenes, htwin⟩ := (twin_refl (initial s)).punctual (sound_initial s) h
  refine ⟨fun now r n hr hn => ?_, hscenes, ?_⟩
  · obtain ⟨hsame, heff⟩ := handle_late now (sound_run s h) hr hn
    exact ⟨by rw [hsame, untimed_withTimer], heff⟩
  · rw [htwin.same, untimed_withTimer]

end Keeper

end Overseer.Monitor
