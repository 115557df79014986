import Mathlib.Data.List.Induction
import Overseer.Proofs.Console.Acts

/-!
# Chronicles

A `Chronicle` is any sequence of acts, so a statement about every `Chronicle` is one about every
order in which the client, the monitor and the command can do what they have to do.

* `Chronicle.acted` : each act of a run is one of the cases of `Session.Acted`.
* `Chronicle.keeper_eq_run` : the monitor's state is the one that the events lead to which it has
  handled.
-/

namespace Overseer.Console

open Overseer.Batch Overseer.Monitor Overseer.Time

/-- An act that was done, with the session before and after it and what was seen of it. -/
structure Episode where
  before : Session
  act : Act
  after : Session
  shown : List Output

/-- From `s`, acts that were done one after the other lead to a session. -/
inductive Chronicle (s : Session) : List Episode → Session → Prop where
  | start : Chronicle s [] s
  | next {ps t a u out} (h : Chronicle s ps t) (ha : t.act a = some (u, out)) :
      Chronicle s (ps ++ [⟨t, a, u, out⟩]) u

namespace Chronicle

variable {s t u : Session} {ps qs : List Episode} {p : Episode} {filter : LogFilter}

theorem last (h : Chronicle s (ps ++ [p]) u) :
    Chronicle s ps p.before ∧ p.before.act p.act = some (p.after, p.shown) ∧ u = p.after := by
  generalize hl : ps ++ [p] = l at h
  cases h with
  | start => simp at hl
  | next h ha =>
    obtain ⟨rfl, hp⟩ := List.append_inj' hl rfl
    obtain rfl := List.cons.inj hp |>.1
    exact ⟨h, ha, rfl⟩

theorem append (h : Chronicle s ps t) (h' : Chronicle t qs u) : Chronicle s (ps ++ qs) u := by
  induction h' with
  | start => rwa [List.append_nil]
  | next _ ha ih =>
    rw [← List.append_assoc]
    exact .next ih ha

theorem cons {a : Act} {out : List Output} (ha : s.act a = some (t, out)) (h : Chronicle t ps u) :
    Chronicle s (⟨s, a, t, out⟩ :: ps) u := .append (.next .start ha) h

theorem split (h : Chronicle s (ps ++ qs) u) : ∃ t, Chronicle s ps t ∧ Chronicle t qs u := by
  induction qs using List.reverseRecOn generalizing u with
  | nil =>
    rw [List.append_nil] at h
    exact ⟨u, h, .start⟩
  | append_singleton qs q ih =>
    rw [← List.append_assoc] at h
    obtain ⟨hq, ha, rfl⟩ := h.last
    obtain ⟨t, hps, hqs⟩ := ih hq
    exact ⟨t, hps, .next hqs ha⟩

theorem around (h : Chronicle s (ps ++ p :: qs) u) :
    Chronicle s ps p.before ∧ p.before.act p.act = some (p.after, p.shown) ∧
      Chronicle p.after qs u := by
  rw [← List.singleton_append, ← List.append_assoc] at h
  obtain ⟨t, hp, hqs⟩ := h.split
  obtain ⟨hps, ha, rfl⟩ := hp.last
  exact ⟨hps, ha, hqs⟩

theorem runs (h : Chronicle s ps t) (hr : s.Runs filter) : t.Runs filter := by
  induction h with
  | start => exact hr
  | next _ ha ih => exact (Session.acted_of_act ih ha).runs ih

theorem acted (h : Chronicle s (ps ++ p :: qs) u) (hr : s.Runs filter) :
    p.before.Acted p.act p.after p.shown :=
  Session.acted_of_act (h.around.1.runs hr) h.around.2.1

end Chronicle

/-! ### Played acts -/

/-- Does acts one after the other, if all of them can be done. -/
def Session.play (s : Session) : List Act → Option (List Episode × Session)
  | [] => some ([], s)
  | a :: rest =>
    (s.act a).bind fun out =>
      (out.1.play rest).map fun more => (⟨s, a, out.1, out.2⟩ :: more.1, more.2)

theorem Chronicle.of_play {s t : Session} {acts : List Act} {ps : List Episode}
    (h : s.play acts = some (ps, t)) : Chronicle s ps t := by
  induction acts generalizing s ps with
  | nil =>
    obtain ⟨rfl, rfl⟩ := Prod.mk.inj (Option.some.inj h)
    exact .start
  | cons a rest ih =>
    obtain ⟨⟨u, out⟩, ha, hrest⟩ := Option.bind_eq_some_iff.1 h
    obtain ⟨⟨qs, v⟩, hplay, hx⟩ := Option.map_eq_some_iff.1 hrest
    obtain ⟨rfl, rfl⟩ := Prod.mk.inj hx
    exact .cons ha (ih hplay)

/-! ### The monitor of a session -/

/-- The event that the monitor handles in an episode. -/
def Episode.event? (p : Episode) : Option Monitor.Event :=
  match p.act with
  | .move (.monitor b) => p.before.station.event? b
  | _ => none

@[simp] theorem Episode.event?_monitor (s s' : Session) (b : Branch) (out : List Output) :
    (Episode.mk s (.move (.monitor b)) s' out).event? = s.station.event? b := rfl

/-- The events that the monitor has handled, each with its time. -/
def handled (ps : List Episode) : List (Nat × Monitor.Event) :=
  ps.filterMap fun p => p.event?.map fun e => (p.before.station.now, e)

theorem Episode.event?_eq_none {p : Episode} (h : ∀ b, p.act ≠ .move (.monitor b)) :
    p.event? = none := by
  unfold event?
  split
  · next b hb => exact absurd hb (h b)
  · rfl

theorem Session.Acted.keeper {s s' : Session} {a : Act} {out : List Output}
    (h : s.Acted a s' out) :
    s'.station.keeper = (s.station.keeper.run (handled [⟨s, a, s', out⟩])).1 := by
  have hnone : (∀ b, a ≠ .move (.monitor b)) →
      (s.station.keeper.run (handled [⟨s, a, s', out⟩])).1 = s.station.keeper := by
    intro ha
    simp [handled, Episode.event?_eq_none (p := ⟨s, a, s', out⟩) ha, Keeper.run]
  cases h with
  | fired hf h =>
    rw [h.keeper]
    cases Station.fires_of_fire hf with
    | handled he hk => simp [handled, Episode.event?, he, Keeper.run, hk, Turn.andThen]
    | finished he hk => simp [handled, Episode.event?, he, Keeper.run, hk]
  | aside ha h => rw [hnone ha.2, h.keeper]
  | setOut _ _ h | loaded _ _ h => rw [hnone (by simp), h.keeper]
  | concluded _ h =>
    rw [hnone (by simp), h.keeper]
    unfold Station.ask
    split <;> rfl
  | started | heard | lastSeen | drained | dried | parted => exact (hnone (by simp)).symm
  | ended _ _ hk => rw [hnone (by simp), hk]

namespace Chronicle

variable {s t : Session} {ps : List Episode} {filter : LogFilter}

/-- **The monitor is where the events lead that it has handled.** -/
theorem keeper_eq_run (h : Chronicle s ps t) (hr : s.Runs filter) :
    t.station.keeper = (s.station.keeper.run (handled ps)).1 := by
  induction h with
  | start => rfl
  | @next ps t a u out h ha ih =>
    rw [(Session.acted_of_act (h.runs hr) ha).keeper, ih, handled, handled, handled,
      List.filterMap_append, Keeper.run_append]
    rfl

theorem sound (h : Chronicle s ps t) (hr : s.Runs filter) (hk : s.station.keeper.Sound) :
    t.station.keeper.Sound := by
  rw [h.keeper_eq_run hr]
  exact hk.run _

end Chronicle

/-! ### The beginning -/

section Beginning

variable {c : Config} {wallets : Host.FileContent} {filter : LogFilter} {origin : Moment}
  {listening : Bool} {ids : Engine.IdSource}

theorem begin_heeds : (Session.ready c wallets (.run filter) origin listening ids).Heeds []
    (Session.begin c wallets (.run filter) origin listening ids).1
    (Session.begin c wallets (.run filter) origin listening ids).2 := Session.heeds_prompt _ _

theorem begin_runs : (Session.begin c wallets (.run filter) origin listening ids).1.Runs filter :=
  begin_heeds.runs rfl

theorem begin_keeper :
    (Session.begin c wallets (.run filter) origin listening ids).1.station.keeper =
      .initial c.monitor := begin_heeds.keeper

theorem begin_sound :
    (Session.begin c wallets (.run filter) origin listening ids).1.station.keeper.Sound := by
  rw [begin_keeper]
  exact Keeper.sound_initial _

end Beginning

/-! ### A small batch -/

/-- The settings for a small batch. -/
def smallConfig : Config :=
  ⟨"wallets.json", .default, ⟨"engine.sock", "console", 5000, 10000, Wire.defaultFrameLimit⟩,
    .empty⟩

/-- A session that is to run a batch of one account, `a`, and to print all log lines. -/
def smallBatch : Session :=
  (Session.begin smallConfig (.bytes (Text.Utf8.encode "[\x7b\"id\":\"a\"\x7d]")) (.run []) ⟨0, 0⟩
    true).1

/-- A frame of the engine, in answer to the `n`-th request if a number is given. -/
def frameOf (n : Option Nat) (m : Wire.Message) : List UInt8 :=
  (Wire.Envelope.mk 1 "engine" "t" (n.map Engine.requestId) m).toValue.write ++ [10]

/-- A frame of the engine comes in. -/
def incoming (n : Option Nat) (m : Wire.Message) : Act := .client (.receive (frameOf n m))

/-- The accounts come. -/
def uptoAccounts : List Act := [
  .move .client, .move .client, .move .read, .move (.monitor .request), .move (.monitor .returned)]

/-- The run is to start, and the engine accepts it. -/
def uptoStart : List Act := [
  .move (.monitor .request), .move .client,
  incoming (some 1) (.commandResult ⟨.start, .accepted, none⟩), .move .client]

end Overseer.Console
