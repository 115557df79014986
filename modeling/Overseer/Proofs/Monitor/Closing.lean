import Mathlib.Data.List.Induction
import Overseer.Proofs.Monitor.LateReturns
import Overseer.Proofs.Monitor.Refusal

/-!
# Closing messages and the start

A run whose start is waited for ends by a closing message, and it does not matter whether that is
taken before or after the engine's word that it took the start: a message that comes first is held,
and the engine's word ends the run.  A refusal throws the held message away.

* `Keeper.Stretch` : what a part of a history comes to: the state after it, the answers to callers,
  and the scenes in which a run ends.  Parts in a row are put together (`Stretch.append`).
* `Keeper.stretch_calm` : log events that cannot end a run.
* `Keeper.stretch_open` : log events with a closing message, once the start is waited for no more.
* `Keeper.closed_since_begun` : after a refusal, the engine's word ends no run without a closing
  message that came since that run began.
* `Keeper.closing_commutes_with_start` : **the order of closing messages and of the engine's word on
  the start does not matter**.
-/

namespace Overseer.Monitor

open Overseer.Batch Overseer.Time

/-- A log event that reaches the keeper. -/
structure Arrival where
  /-- When the keeper takes it. -/
  now : Nat
  line : LogEvent
  /-- The time of day that is noted with it. -/
  at_ : Moment

/-- What happens to the keeper when log events reach it. -/
def arrivals (ls : List Arrival) : List (Nat × Event) := ls.map fun a => (a.now, .log a.line a.at_)

/-- The journal with log events, in order. -/
def Journal.appendAll (j : Journal) (ls : List Arrival) : Journal :=
  ls.foldl (fun j a => j.append a.line a.at_) j

/-- The board after log events that end no run: a closing message is held if a start is waited
for. -/
def Board.heard (b : Board) (ls : List Arrival) : Board :=
  { b with
    journal := b.journal.appendAll ls
    held := b.held || b.awaiting.isSome && ls.any (·.line.closing) }

/-- None of the log events can end a run: nothing runs, a start is waited for, or there is no
closing message among them. -/
def Board.Calm (b : Board) (ls : List Arrival) : Prop :=
  b.lifecycle = .idle ∨ b.awaiting ≠ none ∨ ∀ a ∈ ls, a.line.closing = false

namespace Board

variable {b : Board} {a : Arrival} {early late rest : List Arrival}

@[simp] theorem heard_lifecycle (b : Board) (ls : List Arrival) :
    (b.heard ls).lifecycle = b.lifecycle := rfl
@[simp] theorem heard_epoch (b : Board) (ls : List Arrival) : (b.heard ls).epoch = b.epoch := rfl
@[simp] theorem heard_awaiting (b : Board) (ls : List Arrival) :
    (b.heard ls).awaiting = b.awaiting := rfl

@[simp] theorem heard_nil (b : Board) : b.heard [] = b := by
  simp [heard, Journal.appendAll]

theorem heard_append : (b.heard early).heard late = b.heard (early ++ late) := by
  simp [heard, Journal.appendAll, Bool.or_assoc, Bool.and_or_distrib_left]

theorem heard_cons : (b.heard [a]).heard rest = b.heard (a :: rest) := heard_append

theorem Calm.head (h : b.Calm (a :: rest)) : b.Calm [a] :=
  h.imp_right (.imp_right fun h x hx => h x (List.mem_singleton.1 hx ▸ List.mem_cons_self))

theorem Calm.tail (h : b.Calm (a :: rest)) : (b.heard [a]).Calm rest :=
  h.imp_right (.imp_right fun h x hx => h x (List.mem_cons_of_mem a hx))

end Board

namespace Keeper

/-- A run ends in the scene. -/
def Scene.ends (x : Scene) : Bool :=
  !x.before.board.lifecycle.isIdle && x.after.board.lifecycle.isIdle

theorem Scene.ends_iff {x : Scene} : x.ends = true ↔
    x.before.board.lifecycle ≠ .idle ∧ x.after.board.lifecycle = .idle := by
  rw [ends, Bool.and_eq_true, Bool.not_eq_true', Lifecycle.isIdle_eq_false_iff,
    Lifecycle.isIdle_iff]

theorem Scene.not_ends {x : Scene}
    (h : x.after.board.lifecycle = x.before.board.lifecycle) : ¬x.ends = true := by
  rw [ends_iff, h]
  exact fun hx => hx.1 hx.2

variable {k k' k'' : Keeper} {now : Nat} {e : Event} {l : List Effect}

/-! ### Parts of a history -/

theorem scenes_append (k : Keeper) (a b : List (Nat × Event)) :
    k.scenes (a ++ b) = k.scenes a ++ (k.run a).1.scenes b := by
  induction a generalizing k with
  | nil => rfl
  | cons x rest ih => simp [scenes, run, Turn.andThen, ih]

/-- What a part of a history comes to. -/
structure Stretch (k : Keeper) (h : List (Nat × Event)) (k' : Keeper) (rs : List (Nat × Reply))
    (xs : List Scene) : Prop where
  /-- The state after it. -/
  state : (k.run h).1 = k'
  /-- The answers to callers. -/
  replies : (k.run h).2.filterMap Effect.reply? = rs
  /-- The scenes in which a run ends. -/
  ends : (k.scenes h).filter Scene.ends = xs

theorem Stretch.append {a b : List (Nat × Event)} {rs rs' : List (Nat × Reply)}
    {xs xs' : List Scene}
    (ha : k.Stretch a k' rs xs) (hb : k'.Stretch b k'' rs' xs') :
    k.Stretch (a ++ b) k'' (rs ++ rs') (xs ++ xs') := by
  obtain ⟨rfl, rfl, rfl⟩ := ha
  obtain ⟨rfl, rfl, rfl⟩ := hb
  refine ⟨?_, ?_, ?_⟩
  · rw [run_append]
    rfl
  · rw [run_append, Turn.andThen, List.filterMap_append]
  · rw [scenes_append, List.filter_append]

theorem exists_stretch (hg : k.board.Gated) (now : Nat) (e : Event) :
    ∃ k' l, k.Step now e k' l ∧ k.Stretch [(now, e)] k' (l.filterMap Effect.reply?)
      ([⟨k, now, e, k', l⟩].filter Scene.ends) := by
  refine ⟨_, _, step_handle hg now e, rfl, ?_, rfl⟩
  rw [run, Turn.andThen]
  exact congrArg _ (List.append_nil _)

/-! ### Log events that end no run -/

theorem Step.calm {a : Arrival} (hs : k.Step now (.log a.line a.at_) k' l) (hg : k.board.Gated)
    (hc : k.board.Calm [a]) :
    k'.board = k.board.heard [a] ∧ k'.waiters = k.waiters ∧ l.filterMap Effect.reply? = [] := by
  cases hs with
  | logged hx =>
    refine ⟨?_, rfl, rfl⟩
    rcases hx with hx | hl
    · simp [showing, Board.heard, Board.logged, Journal.appendAll, hx]
    · simp [showing, Board.heard, Board.logged, Journal.appendAll, hg.awaiting_eq_none hl]
  | heldBack hx _ ha =>
    refine ⟨?_, rfl, rfl⟩
    simp [showing, Board.heard, Board.logged, Board.holding, Journal.appendAll, hx, ha]
  | closed hx hl ha =>
    rcases hc with hc | hc | hc
    · exact absurd hc hl
    · exact absurd ha hc
    · exact absurd (hc a List.mem_cons_self) (by simp [hx])

/-- **Log events that end no run** are taken in one after the other. -/
theorem stretch_calm (hg : k.board.Gated) (ls : List Arrival) (hc : k.board.Calm ls) :
    ∃ k', k.Stretch (arrivals ls) k' [] [] ∧ k'.board = k.board.heard ls ∧
      k'.waiters = k.waiters ∧ k'.board.Gated := by
  induction ls generalizing k with
  | nil => exact ⟨k, ⟨rfl, rfl, rfl⟩, k.board.heard_nil.symm, rfl, hg⟩
  | cons a rest ih =>
    obtain ⟨k₁, l, hs, hone⟩ := exists_stretch hg a.now (.log a.line a.at_)
    obtain ⟨hb, hw, hr⟩ := hs.calm hg hc.head
    have hsame : k₁.board.lifecycle = k.board.lifecycle := by rw [hb, Board.heard_lifecycle]
    obtain ⟨k', hrest, hb', hw', hg'⟩ := ih (hs.gated hg) (hb ▸ hc.tail)
    rw [hr, List.filter_cons_of_neg (Scene.not_ends hsame)] at hone
    refine ⟨k', hone.append hrest, ?_, hw'.trans hw, hg'⟩
    rw [hb', hb, Board.heard_cons]

/-! ### The end of the run -/

/-- What those who wait are told when the run is over. -/
def confirmations (k : Keeper) : List (Nat × Reply) :=
  k.waiters.map fun w => (w, .stopped .confirmed)

theorem confirmations_congr (hw : k'.waiters = k.waiters) : k'.confirmations = k.confirmations := by
  rw [confirmations, hw, confirmations]

/-- In the scene run `e` ends: the engine is asked once more about it, and those who wait are told
that it is over. -/
structure Scene.Confirms (x : Scene) (e : Nat) (ws : List (Nat × Reply)) : Prop where
  asks : x.effects.filterMap Effect.call? = [.poll e false]
  tells : ∀ w ∈ ws, w ∈ x.effects.filterMap Effect.reply?

theorem Step.closing {a : Arrival} (hs : k.Step now (.log a.line a.at_) k' l)
    (hx : a.line.closing = true) (hl : k.board.lifecycle ≠ .idle) (ha : k.board.awaiting = none) :
    k'.board = (k.board.heard [a]).ended ∧ l.filterMap Effect.reply? = k.confirmations ∧
      l.filterMap Effect.call? = [.poll k.board.epoch false] := by
  cases hs with
  | logged h => exact (h.elim (by simp [hx]) hl).elim
  | heldBack _ _ h => exact absurd (ha.symm.trans h) nofun
  | closed =>
    refine ⟨rfl, ?_, ?_⟩
    · simp [Effect.reply?, List.filterMap_cons, confirmations]
    · simp [Effect.call?, List.filterMap_cons]

theorem Step.goesOn {c n : Nat} (hs : k.Step now (.returned (.started c n (.ok ()))) k' l)
    (ha : k.board.awaiting = some n) (hh : k.board.held = false) :
    k'.board = k.board.opened ∧ k'.waiters = k.waiters ∧
      l.filterMap Effect.reply? = [(c, .epoch n)] := by
  cases hs with
  | takenLate h | takenTwice h => exact absurd ha h
  | takenOver _ h => exact absurd (hh.symm.trans h) nofun
  | taken => exact ⟨rfl, rfl, rfl⟩

theorem Step.isOver {c n : Nat} (hs : k.Step now (.returned (.started c n (.ok ()))) k' l)
    (ha : k.board.awaiting = some n) (hh : k.board.held = true) :
    k'.board = k.board.ended ∧ l.filterMap Effect.reply? = (c, .epoch n) :: k.confirmations ∧
      l.filterMap Effect.call? = [.poll n false] := by
  cases hs with
  | takenLate h | takenTwice h => exact absurd ha h
  | taken _ h => exact absurd (hh.symm.trans h) nofun
  | takenOver =>
    refine ⟨rfl, ?_, ?_⟩
    · simp [Effect.reply?, List.filterMap_cons, confirmations]
    · simp [Effect.call?, List.filterMap_cons]

theorem Step.takesBack {c n : Nat} {err : RemoteError}
    (hs : k.Step now (.returned (.started c n (.error err))) k' l) (hg : k.board.Gated)
    (ha : k.board.awaiting = some n) : k'.board = k.board.refused err.message := by
  cases hs with
  | refused => rfl
  | refusedLate h =>
    rcases h with h | h
    · exact absurd (hg.current ha) h
    · exact absurd h (hg.active ha)

/-- Once the start is waited for no more, the first closing message ends the run. -/
theorem stretch_open (hg : k.board.Gated) (hl : k.board.lifecycle ≠ .idle)
    (ha : k.board.awaiting = none) {ls : List Arrival} (hx : ∃ a ∈ ls, a.line.closing = true) :
    ∃ k' x, k.Stretch (arrivals ls) k' k.confirmations [x] ∧ k'.board = (k.board.heard ls).ended ∧
      x.Confirms k.board.epoch k.confirmations := by
  induction ls generalizing k with
  | nil => simp at hx
  | cons a rest ih =>
    obtain ⟨k₁, l, hs, hone⟩ := exists_stretch hg a.now (.log a.line a.at_)
    by_cases hc : a.line.closing = true
    · -- this message ends the run, and those behind it find the board idle
      obtain ⟨hb, hr, hq⟩ := hs.closing hc hl ha
      have hend : Scene.ends ⟨k, a.now, .log a.line a.at_, k₁, l⟩ = true :=
        Scene.ends_iff.2 ⟨hl, congrArg Board.lifecycle hb⟩
      obtain ⟨k', hrest, hb', -⟩ := stretch_calm (hs.gated hg) rest (.inl (by rw [hb]; rfl))
      rw [hr, List.filter_cons_of_pos hend] at hone
      have hall := hone.append hrest
      rw [List.append_nil] at hall
      refine ⟨k', _, hall, ?_, hq, fun w hw => hr ▸ hw⟩
      rw [hb', hb]
      rfl
    · -- this one ends nothing, so the closing message is among the rest
      obtain ⟨hb, hw, hr⟩ := hs.calm hg (.inr (.inr (by simpa using hc)))
      have hsame : k₁.board.lifecycle = k.board.lifecycle := by rw [hb, Board.heard_lifecycle]
      have ha₁ : k₁.board.awaiting = none := by rw [hb, Board.heard_awaiting, ha]
      obtain ⟨k', x, hrest, hb', hx'⟩ :=
        ih (hs.gated hg) (hsame ▸ hl) ha₁ (by simpa [hc] using hx)
      rw [hr, List.filter_cons_of_neg (Scene.not_ends hsame)] at hone
      have hall := hone.append hrest
      rw [confirmations_congr hw] at hall hx'
      rw [hb, Board.heard_cons] at hb'
      rw [hb] at hx'
      exact ⟨k', x, hall, hb', hx'⟩

/-- If a closing message is held, the engine's word ends the run. -/
theorem stretch_held (hg : k.board.Gated) {n : Nat} (ha : k.board.awaiting = some n)
    (hh : k.board.held = true) (now caller : Nat) (late : List Arrival) :
    ∃ k' x, k.Stretch ((now, .returned (.started caller n (.ok ()))) :: arrivals late) k'
        ((caller, .epoch n) :: k.confirmations) [x] ∧
      k'.board = (k.board.heard late).ended ∧ x.Confirms n k.confirmations := by
  obtain ⟨k₁, l, hs, hone⟩ := exists_stretch hg now (.returned (.started caller n (.ok ())))
  obtain ⟨hb, hr, hq⟩ := hs.isOver ha hh
  have hidle : k₁.board.lifecycle = .idle := by rw [hb, Board.ended_lifecycle]
  -- what comes later finds the board idle
  obtain ⟨k', hlate, hb', -⟩ := stretch_calm (hs.gated hg) late (.inl hidle)
  rw [hr, List.filter_cons_of_pos (Scene.ends_iff.2 ⟨hg.active ha, hidle⟩)] at hone
  have hall := hone.append hlate
  rw [List.append_nil] at hall
  refine ⟨k', _, hall, ?_, hq, fun w hw => hr ▸ List.mem_cons_of_mem _ hw⟩
  rw [hb', hb]
  rfl

/-- If no closing message is held, one that comes after the engine's word ends the run. -/
theorem stretch_unheld (hg : k.board.Gated) {n : Nat} (ha : k.board.awaiting = some n)
    (hh : k.board.held = false) (now caller : Nat) {late : List Arrival}
    (hx : ∃ a ∈ late, a.line.closing = true) :
    ∃ k' x, k.Stretch ((now, .returned (.started caller n (.ok ()))) :: arrivals late) k'
        ((caller, .epoch n) :: k.confirmations) [x] ∧
      k'.board = (k.board.heard late).ended ∧ x.Confirms n k.confirmations := by
  obtain ⟨k₁, l, hs, hone⟩ := exists_stretch hg now (.returned (.started caller n (.ok ())))
  obtain ⟨hb, hw, hr⟩ := hs.goesOn ha hh
  have hsame : k₁.board.lifecycle = k.board.lifecycle := by rw [hb, Board.opened_lifecycle]
  have ha₁ : k₁.board.awaiting = none := by rw [hb, Board.opened_awaiting]
  have hn : k₁.board.epoch = n := by rw [hb, Board.opened_epoch, hg.current ha]
  obtain ⟨k', x, hlate, hb', hx'⟩ := stretch_open (hs.gated hg) (hsame ▸ hg.active ha) ha₁ hx
  rw [hr, List.filter_cons_of_neg (Scene.not_ends hsame)] at hone
  rw [confirmations_congr hw] at hlate hx'
  refine ⟨k', x, hone.append hlate, ?_, hn ▸ hx'⟩
  rw [hb', hb]
  rfl

/-! ### Where a held message comes from -/

/-- In the scene a closing message comes. -/
def Scene.closes (x : Scene) : Bool :=
  match x.event with
  | .log line _ => line.closing
  | _ => false

theorem Step.held (hs : k.Step now e k' l) (hh : k'.board.held = true) :
    k'.board.epoch = k.board.epoch ∧ (k.board.held = true ∨
      Scene.closes ⟨k, now, e, k', l⟩ = true ∧ k.board.awaiting = some k.board.epoch) := by
  cases hs with
  | start | takenOver | refused | closed | expired => cases hh
  | pollFailed | pollLate =>
    rw [answeredPoll_board] at hh ⊢
    exact ⟨rfl, .inl hh⟩
  | heldBack hx _ ha => exact ⟨rfl, .inr ⟨hx, ha⟩⟩
  | _ => exact ⟨rfl, .inl hh⟩

theorem scenes_concat (k : Keeper) (h : List (Nat × Event)) (now : Nat) (e : Event) :
    k.scenes (h ++ [(now, e)]) = k.scenes h ++ [⟨(k.run h).1, now, e,
      ((k.run h).1.handle now e).1, ((k.run h).1.handle now e).2⟩] :=
  scenes_append ..

theorem run_concat (k : Keeper) (h : List (Nat × Event)) (now : Nat) (e : Event) :
    (k.run (h ++ [(now, e)])).1 = ((k.run h).1.handle now e).1 := by
  rw [run_append]
  rfl

/-- What is waited for, and the message that is held, after a history from a monitor that waits for
nothing: the start is of a later run, and the message came while it was waited for. -/
theorem since_idle (hk : k.Sound) (ha : k.board.awaiting = none) (h : List (Nat × Event)) :
    k.board.epoch ≤ (k.run h).1.board.epoch ∧
      (∀ n, (k.run h).1.board.awaiting = some n → k.board.epoch < n) ∧
      ((k.run h).1.board.held = true → ∃ y ∈ k.scenes h, y.closes = true ∧
        y.before.board.awaiting = some (k.run h).1.board.epoch) := by
  induction h using List.reverseRecOn with
  | nil =>
    refine ⟨Nat.le_refl _, fun n hn => ?_, fun hh => ?_⟩
    · exact absurd (ha.symm.trans hn) nofun
    · exact absurd (hk.gated.held_eq_false ha ▸ hh) nofun
  | append_singleton h x ih =>
    obtain ⟨hle, hlater, hheld⟩ := ih
    have hs := step_handle (hk.run h).gated x.1 x.2
    rw [run_concat, scenes_concat]
    refine ⟨Nat.le_trans hle hs.epoch_le, fun n hn => ?_, fun hh => ?_⟩
    · rcases hs.awaiting (hk.run h).gated hn with ⟨rfl, -⟩ | ⟨hn, -⟩
      · exact Nat.lt_succ_of_le hle
      · exact hlater n hn
    · obtain ⟨hsame, hh | ⟨hx, hw⟩⟩ := hs.held hh
      · obtain ⟨y, hy, hc, hw⟩ := hheld hh
        exact ⟨y, List.mem_append_left _ hy, hc, hsame ▸ hw⟩
      · exact ⟨_, List.mem_append_right _ List.mem_cons_self, hx, hsame ▸ hw⟩

/-- A scene of a history finds the monitor that what comes before it leaves. -/
theorem exists_of_scenes_eq {h : List (Nat × Event)} {pre post : List Scene} {x : Scene}
    (hx : k.scenes h = pre ++ x :: post) :
    ∃ a, k.scenes a = pre ∧ x.before = (k.run a).1 ∧
      x.after = (x.before.handle x.time x.event).1 := by
  induction pre generalizing k h with
  | nil =>
    cases h with
    | nil => cases hx
    | cons y rest =>
      obtain ⟨rfl, -⟩ := List.cons_eq_cons.1 hx
      exact ⟨[], rfl, rfl, rfl⟩
  | cons y pre ih =>
    cases h with
    | nil => cases hx
    | cons z rest =>
      obtain ⟨rfl, hrest⟩ := List.cons_eq_cons.1 hx
      obtain ⟨a, ha, hb, hc⟩ := ih hrest
      exact ⟨z :: a, congrArg _ ha, hb, hc⟩

theorem Step.held_of_ends {c n : Nat} (hs : k.Step now (.returned (.started c n (.ok ()))) k' l)
    (hl : k.board.lifecycle ≠ .idle) (hl' : k'.board.lifecycle = .idle) :
    k.board.held = true ∧ k.board.awaiting = some n ∧ n = k.board.epoch := by
  cases hs with
  | takenLate | takenTwice | taken => exact absurd hl' hl
  | takenOver ha hh => exact ⟨hh, ha, rfl⟩

/-- After a time when no start was waited for, the engine's word ends only a later run, and only if
a closing message has come since that run began. -/
theorem closed_since_begun (hk : k.Sound) (ha : k.board.awaiting = none) {h : List (Nat × Event)}
    {pre post : List Scene} {x : Scene} {c n : Nat} (hsplit : k.scenes h = pre ++ x :: post)
    (he : x.event = .returned (.started c n (.ok ()))) (hx : x.ends = true) :
    k.board.epoch < n ∧ ∃ y ∈ pre, y.closes = true ∧ y.before.board.awaiting = some n := by
  obtain ⟨a, rfl, hbefore, hafter⟩ := exists_of_scenes_eq hsplit
  obtain ⟨-, hlater, hheld⟩ := since_idle hk ha a
  have hs := step_handle (hk.run a).gated x.time x.event
  rw [← hbefore] at hlater hheld hs
  rw [← hafter, he] at hs
  obtain ⟨hl, hl'⟩ := Scene.ends_iff.1 hx
  obtain ⟨hh, haw, rfl⟩ := hs.held_of_ends hl hl'
  exact ⟨hlater _ haw, hheld hh⟩

/-! ### Closing messages and the start -/

/-- How log events `ls` and the engine's word that it took the start of run `e`, for a caller, end
the run, in a history `h` of these. -/
structure ClosedOnce (k : Keeper) (e caller : Nat) (ls : List Arrival) (h : List (Nat × Event)) :
    Prop where
  roster : (k.run h).1.board.roster = k.board.roster
  journal : (k.run h).1.board.journal = k.board.journal.appendAll ls
  idle : (k.run h).1.board.lifecycle = .idle
  epoch : (k.run h).1.board.epoch = e
  awaiting : (k.run h).1.board.awaiting = none
  held : (k.run h).1.board.held = false
  /-- The run ends in one scene only. -/
  ending : ∃ x, (k.scenes h).filter Scene.ends = [x] ∧ x.Confirms e k.confirmations
  /-- Nobody is told anything else. -/
  replies : (k.run h).2.filterMap Effect.reply? = (caller, .epoch e) :: k.confirmations

/-- How a refusal of the start of run `e` among log events takes the run back, in a history `h` of
these. -/
structure Discards (k : Keeper) (e : Nat) (h : List (Nat × Event)) : Prop where
  idle : (k.run h).1.board.lifecycle = .idle
  epoch : (k.run h).1.board.epoch = e
  awaiting : (k.run h).1.board.awaiting = none
  held : (k.run h).1.board.held = false
  /-- If the engine's word on a later start ends that run, a closing message has come since the run
  began. -/
  later : ∀ (h' : List (Nat × Event)) (pre post : List Scene) (x : Scene) (c n : Nat),
    (k.run h).1.scenes h' = pre ++ x :: post → x.event = .returned (.started c n (.ok ())) →
      x.ends = true → e < n ∧ ∃ y ∈ pre, y.closes = true ∧ y.before.board.awaiting = some n

theorem ClosedOnce.of_stretch {n caller : Nat} {ls : List Arrival} {h : List (Nat × Event)}
    {x : Scene} (hs : k.Stretch h k' ((caller, .epoch n) :: k.confirmations) [x])
    (hn : n = k.board.epoch) (hb : k'.board = (k.board.heard ls).ended)
    (hx : x.Confirms n k.confirmations) : k.ClosedOnce n caller ls h := by
  obtain ⟨rfl, hreplies, hends⟩ := hs
  subst hn
  refine ⟨?_, ?_, ?_, ?_, ?_, ?_, ⟨x, hends, hx⟩, hreplies⟩
  all_goals
    rw [hb]
    rfl

theorem Discards.of_board {n : Nat} {h : List (Nat × Event)} {b : Board} {reason : String}
    {ls : List Arrival} (hk : k.Sound) (hn : n = b.epoch)
    (hb : (k.run h).1.board = (b.refused reason).heard ls) : k.Discards n h := by
  have hl : (k.run h).1.board.lifecycle = .idle := by
    rw [hb, Board.heard_lifecycle, Board.refused_lifecycle]
  have he : (k.run h).1.board.epoch = n := by
    rw [hb, Board.heard_epoch, Board.refused_epoch, hn]
  have ha : (k.run h).1.board.awaiting = none := by
    rw [hb, Board.heard_awaiting, Board.refused_awaiting]
  refine ⟨hl, he, ha, (hk.run h).gated.held_eq_false ha, ?_⟩
  intro h' pre post x c m hsplit hx hend
  rw [← he]
  exact closed_since_begun (hk.run h) ha hsplit hx hend

theorem closedOnce_of_taken (hk : k.Sound) {n : Nat} (ha : k.board.awaiting = some n)
    {early late : List Arrival} (hx : ∃ a ∈ early ++ late, a.line.closing = true)
    (now caller : Nat) :
    k.ClosedOnce n caller (early ++ late)
      (arrivals early ++ (now, .returned (.started caller n (.ok ()))) :: arrivals late) := by
  obtain ⟨k₁, hearly, hb₁, hw₁, hg₁⟩ := stretch_calm hk.gated early (.inr (.inl (ha ▸ nofun)))
  have ha₁ : k₁.board.awaiting = some n := by rw [hb₁, Board.heard_awaiting, ha]
  -- the run ends by the engine's word, or by a message behind it
  have hlate : ∃ k' x, k₁.Stretch ((now, .returned (.started caller n (.ok ()))) :: arrivals late)
      k' ((caller, .epoch n) :: k₁.confirmations) [x] ∧
      k'.board = (k₁.board.heard late).ended ∧ x.Confirms n k₁.confirmations := by
    cases hh : k₁.board.held with
    | true => exact stretch_held hg₁ ha₁ hh now caller late
    | false =>
      refine stretch_unheld hg₁ ha₁ hh now caller ?_
      obtain ⟨a, hmem, hc⟩ := hx
      rcases List.mem_append.1 hmem with hmem | hmem
      · -- the message would be held
        have hany : early.any (·.line.closing) = true := List.any_eq_true.2 ⟨a, hmem, hc⟩
        simp [hb₁, Board.heard, ha, hany] at hh
      · exact ⟨a, hmem, hc⟩
  obtain ⟨k', x, hlate, hb', hx'⟩ := hlate
  rw [confirmations_congr hw₁] at hlate hx'
  rw [hb₁, Board.heard_append] at hb'
  exact .of_stretch (hearly.append hlate) (hk.gated.current ha) hb' hx'

theorem discards_of_refused (hk : k.Sound) {n : Nat} (ha : k.board.awaiting = some n)
    (early late : List Arrival) (now caller : Nat) (err : RemoteError) :
    k.Discards n
      (arrivals early ++ (now, .returned (.started caller n (.error err))) :: arrivals late) := by
  obtain ⟨k₁, hearly, hb₁, -, hg₁⟩ := stretch_calm hk.gated early (.inr (.inl (ha ▸ nofun)))
  have ha₁ : k₁.board.awaiting = some n := by rw [hb₁, Board.heard_awaiting, ha]
  obtain ⟨k₂, l, hs, hback⟩ := exists_stretch hg₁ now (.returned (.started caller n (.error err)))
  have hb₂ := hs.takesBack hg₁ ha₁
  obtain ⟨k₃, hlate, hb₃, -, -⟩ := stretch_calm (hs.gated hg₁) late (.inl (hb₂ ▸ rfl))
  obtain ⟨rfl, -, -⟩ := hearly.append (hback.append hlate)
  rw [hb₂] at hb₃
  exact .of_board hk (hg₁.current ha₁) hb₃

/-- **The order of closing messages and of the engine's word on the start does not matter.**  While
the start of run `n` is waited for, after any history, let log events reach the monitor with a
closing message among them, and the engine's word on the start at any place among them:

* if the engine has taken the start, the monitor comes to the same board wherever the word stands:
  the log events are in the journal and the run is over.  It ends in one scene, where the engine is
  asked once more and those who wait for a stop are told that it is confirmed;
* if it has refused the start, the run is over too and no closing message is held, so the engine's
  word on a later start ends that run only if a closing message has come since it began.

The monitor of every course is one of these (`Course.exists_history`). -/
theorem closing_commutes_with_start (set : Settings) (h : List (Nat × Event)) {n : Nat}
    (ha : ((initial set).run h).1.board.awaiting = some n) {early late : List Arrival}
    (hx : ∃ a ∈ early ++ late, a.line.closing = true) (now caller : Nat) :
    ((initial set).run h).1.ClosedOnce n caller (early ++ late)
        (arrivals early ++ (now, .returned (.started caller n (.ok ()))) :: arrivals late) ∧
      ∀ err, ((initial set).run h).1.Discards n
        (arrivals early ++ (now, .returned (.started caller n (.error err))) :: arrivals late) :=
  ⟨closedOnce_of_taken (sound_run set h) ha hx now caller,
    discards_of_refused (sound_run set h) ha early late now caller⟩

/-- A run with two callers who wait for its stop before the engine has answered its start. -/
def stoppedStart : List (Nat × Event) := [
  (0, .request 1 .load), (1, .returned (.loaded 1 (.ok [⟨"a", "A"⟩]))),
  (2, .request 2 (.start .empty)), (3, .request 3 .stop), (4, .request 4 .stop)]

/-- A message that ends a run. -/
def overMessage : Arrival := ⟨5, ⟨systemId, "All tasks completed", .info, none⟩, ⟨0, 0⟩⟩

/-- The message comes before the engine's word or after it, once and twice. -/
theorem closing_commutes_with_start_of_stop :
    ((initial .default).run stoppedStart).1.board.awaiting = some 1 ∧
      ((initial .default).run stoppedStart).1.confirmations =
        [(3, .stopped .confirmed), (4, .stopped .confirmed)] ∧
      ((initial .default).run stoppedStart).1.ClosedOnce 1 2 [overMessage]
        (arrivals [overMessage] ++ [(6, .returned (.started 2 1 (.ok ())))]) ∧
      ((initial .default).run stoppedStart).1.ClosedOnce 1 2 [overMessage, overMessage]
        ((6, .returned (.started 2 1 (.ok ()))) :: arrivals [overMessage, overMessage]) ∧
      ((initial .default).run stoppedStart).1.Discards 1 (arrivals [overMessage] ++
        [(6, .returned (.started 2 1 (.error (.transport "gone"))))]) := by
  have ha : ((initial .default).run stoppedStart).1.board.awaiting = some 1 := rfl
  have hx : overMessage.line.closing = true := by decide
  have hone : ∃ a ∈ [overMessage] ++ [], a.line.closing = true := ⟨_, List.mem_cons_self, hx⟩
  have htwo : ∃ a ∈ [] ++ [overMessage, overMessage], a.line.closing = true :=
    ⟨_, List.mem_cons_self, hx⟩
  exact ⟨ha, rfl, (closing_commutes_with_start .default stoppedStart ha hone 6 2).1,
    (closing_commutes_with_start .default stoppedStart ha htwo 6 2).1,
    (closing_commutes_with_start .default stoppedStart ha hone 6 2).2 _⟩

end Keeper

end Overseer.Monitor
