import Overseer.Console.Session
import Overseer.Proofs.Monitor.Notices

/-!
# What a session does, act by act

An `Act` is anything that the client, the monitor, the command, the engine, the clock or somebody at
the keyboard can do next.  Each party acts whenever it has something to do.

* `Session.Heeds` : what the parties do about each other's messages.  The command stays where it is,
  and every log entry is passed on to it.
* `Session.Acted` : all that an act can do to a session that runs a batch, case by case.
* `Session.acted_of_act` : nothing else happens.
-/

namespace Overseer.Console

open Overseer.Batch Overseer.Monitor Overseer.Time

/-- What can happen next in a session. -/
inductive Act where
  /-- A party makes a move. -/
  | move (m : Session.Move)
  /-- Something happens to the client that somebody outside brings about. -/
  | client (e : Engine.Event)
  /-- The engine does something at its end. -/
  | engine (h : Engine.Harbor)
  /-- Somebody interrupts the command. -/
  | interrupt
  | clock (t : Nat)

/-- The log entry that is printed. -/
def Output.log? : Output → Option LogEntry
  | .line (.log e) => some e
  | _ => none

namespace Session

/-- Does an act, if it can be done. -/
def act (s : Session) : Act → Option (Session × List Output)
  | .move m => s.step m
  | .client e =>
    (s.exchange.happen e).map fun out => { s with exchange := out.1 }.takeHappenings out.2
  | .engine h => some ({ s with exchange := { s.exchange with harbor := h } }, [])
  | .interrupt => some s.interrupt
  | .clock t => some (s.clockAt t, [])

/-! ### Messages between the parties -/

/-- From `s` to `s'` the notices `ns` of the monitor are heeded and nothing else is done: the
command stays where it is, and what its follower gets are the log entries among them. -/
structure Heeds (s : Session) (ns : List Monitor.Notice) (s' : Session) (out : List Output) :
    Prop where
  stage : s'.stage = s.stage
  filter : s'.follow.filter = s.follow.filter
  log : s'.follow.log = (ns.filterMap Notice.entry?).foldl Follower.send s.follow.log
  keeper : s'.station.keeper = s.station.keeper
  /-- Nobody asks for a view. -/
  requests : ∀ c, (c, .view) ∈ s'.station.requests → (c, .view) ∈ s.station.requests
  mail : ∀ v, .replied (.view v) ∈ s'.mail →
    .replied (.view v) ∈ s.mail ∨ ∃ c, .replied c (.view v) ∈ ns
  /-- No log line is printed. -/
  silent : out.filterMap Output.log? = []

variable {s t u s' : Session} {ns ms : List Monitor.Notice} {out out' : List Output}

theorem Heeds.trans (h : s.Heeds ns t out) (h' : t.Heeds ms u out') :
    s.Heeds (ns ++ ms) u (out ++ out') where
  stage := h'.stage.trans h.stage
  filter := h'.filter.trans h.filter
  log := by rw [h'.log, h.log, List.filterMap_append, List.foldl_append]
  keeper := h'.keeper.trans h.keeper
  requests c hc := h.requests c (h'.requests c hc)
  mail v hv := by
    rcases h'.mail v hv with ht | ⟨c, hc⟩
    · exact (h.mail v ht).imp_right fun ⟨c, hc⟩ => ⟨c, List.mem_append_left _ hc⟩
    · exact .inr ⟨c, List.mem_append_right _ hc⟩
  silent := by rw [List.filterMap_append, h.silent, h'.silent, List.append_nil]

theorem Heeds.quiet (h : s.Heeds ns s' out) (hq : Quiet ns) : s.Heeds [] s' out where
  stage := h.stage
  filter := h.filter
  log := by rw [h.log, hq.entries]; rfl
  keeper := h.keeper
  requests := h.requests
  mail v hv := (h.mail v hv).imp_right fun ⟨c, hc⟩ => absurd hc (hq.views c v)
  silent := h.silent

theorem heeds_nil (s : Session) : s.Heeds [] s [] :=
  ⟨rfl, rfl, rfl, rfl, fun _ h => h, fun _ h => .inl h, rfl⟩

theorem heeds_exchange (s : Session) (x : Engine.Exchange) (es : List Errand) (n : Nat) :
    s.Heeds [] { s with exchange := x, errands := es, next := n } [] :=
  ⟨rfl, rfl, rfl, rfl, fun _ h => h, fun _ h => .inl h, rfl⟩

theorem heeds_hear (s : Session) (n : Monitor.Notice) : s.Heeds [n] (s.hear n) [] := by
  cases n with
  | replied c r =>
    by_cases hc : c = stopper
    · -- an answer to the request to stop is no mail
      simp only [hear, if_pos hc]
      cases r <;> exact ⟨rfl, rfl, rfl, rfl, fun _ h => h, fun _ h => .inl h, rfl⟩
    · simp only [hear, if_neg hc]
      refine ⟨rfl, rfl, rfl, rfl, fun _ h => h, fun v hv => ?_, rfl⟩
      rcases List.mem_append.1 hv with hv | hv
      · exact .inl hv
      · obtain rfl : Reply.view v = r := by simpa using hv
        exact .inr ⟨c, List.mem_cons_self⟩
  | _ => exact ⟨rfl, rfl, rfl, rfl, fun _ h => h, fun _ h => .inl h, rfl⟩

theorem heeds_foldl_hear (s : Session) (ns : List Monitor.Notice) :
    s.Heeds ns (ns.foldl hear s) [] := by
  induction ns generalizing s with
  | nil => exact heeds_nil s
  | cons n rest ih => exact (heeds_hear s n).trans (ih _)

theorem heeds_giveBack (s : Session) (e : Errand) (r : Monitor.Return) :
    s.Heeds [] (s.giveBack e r) [] := by
  obtain ⟨hk, hreq, hq⟩ := (s.station.withdraw e.call.kind e.number).giveBack_quiet r
  have hback : s.Heeds [] { s with
      station := ((s.station.withdraw e.call.kind e.number).giveBack r).1 } [] :=
    ⟨rfl, rfl, rfl, hk, fun c hc => hreq ▸ hc, fun _ h => .inl h, rfl⟩
  exact hback.trans ((heeds_foldl_hear _ _).quiet hq)

theorem heeds_mail (s : Session) {m : Mail} (hm : ∀ v, m ≠ .replied (.view v)) :
    s.Heeds [] { s with mail := s.mail ++ [m] } [] :=
  ⟨rfl, rfl, rfl, rfl, fun _ h => h, fun v hv => .inl ((List.mem_append.1 hv).resolve_right
    fun h => hm v (List.mem_singleton.1 h).symm), rfl⟩

theorem heeds_answered (s : Session) (caller : Nat) (r : Engine.Response) :
    s.Heeds [] (s.answered caller r) [] := by
  unfold answered
  split
  · exact (heeds_exchange s _ _ _).trans (heeds_giveBack _ _ _)
  · exact heeds_mail s nofun

theorem heeds_takeHappening (s : Session) (h : Engine.Happening) :
    s.Heeds [] (s.takeHappening h).1 (s.takeHappening h).2 := by
  cases h with
  | engine sight => exact ⟨rfl, rfl, rfl, rfl, fun _ h => h, fun _ h => .inl h, rfl⟩
  | client n =>
    cases n with
    | answered caller r => exact heeds_answered s caller r
    | watched caller r => exact heeds_mail s nofun
    | logged sink e =>
      refine ⟨rfl, rfl, rfl, ?_, fun c hc => ?_, fun _ h => .inl h, rfl⟩
      · simp only [takeHappening, Station.emit]
        split <;> rfl
      · simp only [takeHappening, Station.emit] at hc
        split at hc <;> exact hc
    | _ => exact heeds_nil s

theorem heeds_takeHappenings (s : Session) (hs : List Engine.Happening) :
    s.Heeds [] (s.takeHappenings hs).1 (s.takeHappenings hs).2 := by
  induction hs generalizing s with
  | nil => exact heeds_nil s
  | cons h rest ih => exact (heeds_takeHappening s h).trans (ih _)

theorem heeds_prompt (s : Session) (e : Engine.Event) :
    s.Heeds [] (s.prompt e).1 (s.prompt e).2 :=
  (heeds_exchange s _ _ _).trans (heeds_takeHappenings _ _)

theorem heeds_place (s : Session) (number : Nat) (c : Call) :
    s.Heeds [] (s.place number c).1 (s.place number c).2 := by
  unfold place
  split
  · exact heeds_giveBack s _ _
  · exact (heeds_exchange s _ _ _).trans (heeds_prompt _ _)
  · exact heeds_nil s

theorem heeds_takeNotice (s : Session) (n : Monitor.Notice) :
    s.Heeds [n] (s.takeNotice n).1 (s.takeNotice n).2 := by
  cases n with
  | called number c =>
    obtain ⟨hstage, hfilter, hlog, hkeeper, hrequests, hmail, hsilent⟩ := heeds_place s number c
    exact ⟨hstage, hfilter, hlog, hkeeper, hrequests, fun v hv => (hmail v hv).imp_right nofun,
      hsilent⟩
  | _ => exact heeds_hear s _

theorem heeds_takeNotices (s : Session) (ns : List Monitor.Notice) :
    s.Heeds ns (s.takeNotices ns).1 (s.takeNotices ns).2 := by
  induction ns generalizing s with
  | nil => exact heeds_nil s
  | cons n rest ih => exact (heeds_takeNotice s n).trans (ih _)

theorem heeds_follow (s : Session) {f : Follow} (hf : f.filter = s.follow.filter)
    (hl : f.log = s.follow.log) : s.Heeds [] { s with follow := f } [] :=
  ⟨rfl, hf, hl, rfl, fun _ h => h, fun _ h => .inl h, rfl⟩

theorem heeds_askMonitor (s : Session) (caller : Nat) (r : Monitor.Request) :
    { s with station := (s.station.ask caller r).1 }.Heeds [] (s.askMonitor caller r).1
      (s.askMonitor caller r).2 := by
  refine (heeds_takeNotices _ _).quiet ?_
  unfold Station.ask
  split
  · exact ⟨rfl, fun _ _ h => nomatch h⟩
  · exact ⟨rfl, fun _ _ h => by simp at h⟩

theorem heeds_asked (s : Session) (caller : Nat) {r : Monitor.Request} (hr : r ≠ .view) :
    s.Heeds [] (s.askMonitor caller r).1 (s.askMonitor caller r).2 := by
  have hask : s.Heeds [] { s with station := (s.station.ask caller r).1 } [] := by
    refine ⟨rfl, rfl, rfl, ?_, fun c hc => ?_, fun _ h => .inl h, rfl⟩
    · unfold Station.ask
      split <;> rfl
    · unfold Station.ask at hc
      split at hc
      · refine (List.mem_append.1 hc).resolve_right fun h => hr ?_
        exact (congrArg Prod.snd (List.mem_singleton.1 h)).symm
      · exact hc
  exact hask.trans (heeds_askMonitor s caller r)

end Session

/-! ### What an act does -/

/-- What is said of something that is taken from the log. -/
def Follow.tell (f : Follow) : Heard → List Line
  | .entry e => f.entryLines e
  | .missed n => [.text (missedText n)]

theorem Follow.hear_eq (f : Follow) :
    f.hear = f.log.take?.map fun out => ({ f with log := out.2 }, f.tell out.1) := by
  unfold hear
  split <;> simp_all [tell]

/-- The console once it has shown a view. -/
def Follow.seen (f : Follow) (v : View) : Follow :=
  { f with screen := (f.screen.changes v).1, unseen := false }

/-- What is new in a view. -/
def Follow.news (f : Follow) (v : View) : List Line := (f.screen.changes v).2.map .text

/-- The act is neither one of the monitor nor a look into the log. -/
def Act.Aside (a : Act) : Prop := a ≠ .move .hear ∧ ∀ b, a ≠ .move (.monitor b)

namespace Session

/-- The session runs a batch and prints the log lines that `filter` allows. -/
def Runs (filter : LogFilter) (s : Session) : Prop :=
  match s.stage with
  | .connecting task => task = .run filter
  | .reading _ | .stopping => False
  | .loading | .starting | .following | .draining | .parting | .asking | .closing =>
    s.follow.filter = filter
  | .ended _ => True

/-- All that an act can do to a session that runs a batch. -/
inductive Acted (s : Session) : Act → Session → List Output → Prop where
  /-- The run is where it was. -/
  | aside {a s' out} (ha : a.Aside) (h : s.Heeds [] s' out) : Acted s a s' out
  /-- The monitor takes what is next in a branch. -/
  | fired {b st ns s' out} (hf : s.station.fire b = some (st, ns))
      (h : { s with station := st }.Heeds ns s' out) : Acted s (.move (.monitor b)) s' out
  /-- There is a connection. -/
  | setOut {filter rest s' out} (hs : s.stage = .connecting (.run filter))
      (hm : s.mail = .connected (.ok ()) :: rest)
      (h : { s with mail := rest, stage := .loading, follow := .fresh filter }.Heeds [] s' out) :
      Acted s (.move .read) s' out
  /-- The accounts are loaded. -/
  | loaded {l rest s' out} (hs : s.stage = .loading)
      (hm : s.mail = .replied (.accounts l) :: rest)
      (h : { s with mail := rest, stage := .starting, follow := .fresh s.follow.filter }.Heeds []
        s' out) : Acted s (.move .read) s' out
  /-- The run has started. -/
  | started {n rest} (hs : s.stage = .starting) (hm : s.mail = .replied (.epoch n) :: rest) :
      Acted s (.move .read)
        { s with
          mail := rest
          stage := .following
          follow := { s.follow with epoch := n } } []
  /-- Something is taken from the log. -/
  | heard {x log} (hs : s.stage = .following) (ht : s.follow.log.take? = some (x, log)) :
      Acted s (.move .hear) { s with follow := { s.follow with log := log } }
        ((s.follow.tell x).map .line)
  /-- The latest view is shown, and it is the last one of the run. -/
  | lastSeen {shown} (hs : s.stage = .following)
      (hl : s.follow.last s.station.keeper.published = true)
      (hsilent : shown.filterMap Output.log? = []) :
      Acted s (.move .look)
        { s with
          follow := s.follow.seen s.station.keeper.published
          stage := .draining } shown
  /-- An entry that is left of the log is taken. -/
  | drained {e log} (hs : s.stage = .draining) (ht : s.follow.log.take? = some (.entry e, log)) :
      Acted s (.move .drain) { s with follow := { s.follow with log := log } }
        ((s.follow.entryLines e).map .line)
  /-- No more is taken from the log: there is nothing, or there is a gap. -/
  | dried {f} (hs : s.stage = .draining) (hf : f.filter = s.follow.filter)
      (ht : ∀ e log, s.follow.log.take? ≠ some (.entry e, log)) :
      Acted s (.move .drain) { s with follow := f, stage := .parting } []
  /-- It is told what came of a stop. -/
  | parted {f told} (hs : s.stage = .parting) (hf : f.filter = s.follow.filter)
      (hsilent : told.filterMap Output.log? = []) :
      Acted s (.move .part) { s with follow := f, stage := .asking } told
  /-- The final view is asked for. -/
  | concluded {s' out} (hs : s.stage = .asking)
      (h : { s with stage := .closing, station := (s.station.ask asker .view).1 }.Heeds [] s' out) :
      Acted s (.move .conclude) s' out
  /-- The command ends, and only the final view is what ends a run well. -/
  | ended {e m rest s' out} (hm : s.mail = m :: rest) (hs' : s'.stage = .ended e)
      (hk : s'.station.keeper = s.station.keeper) (hsilent : out.filterMap Output.log? = [])
      (hview : s.stage = .closing → e = .done →
        ∃ v, m = .replied (.view v) ∧ out.head? = some (say (summaryLine v))) :
      Acted s (.move .read) s' out

variable {s s' : Session} {a : Act} {out : List Output} {filter : LogFilter}

/-- When the command ends, the client and the engine go on by themselves. -/
theorem heeds_finish (s : Session) (e : Exit) (said : List Output) :
    ∃ seen, (s.finish e said).2 = said ++ seen ∧
      { s with
        stage := .ended e
        mail := []
        station := { s.station with alive := false } }.Heeds [] (s.finish e said).1 seen :=
  ⟨_, rfl, (heeds_prompt _ _).trans (heeds_prompt _ _)⟩

theorem heeds_clockAt (s : Session) (t : Nat) : s.Heeds [] (s.clockAt t) [] :=
  ⟨rfl, rfl, rfl, rfl, fun _ h => h, fun _ h => .inl h, rfl⟩

theorem heeds_interrupt (s : Session) : s.Heeds [] s.interrupt.1 s.interrupt.2 := by
  unfold interrupt
  split
  · have hfollow : s.Heeds [] { s with follow := s.follow.interrupt.1 } [] := heeds_follow s rfl rfl
    cases hi : s.follow.interrupted with
    | true =>
      simp only [Follow.interrupt, hi]
      exact heeds_follow s rfl rfl
    | false =>
      have hasked := hfollow.trans (heeds_asked _ stopper (r := .stop) nofun)
      simp only [Follow.interrupt, hi] at hasked ⊢
      exact ⟨hasked.stage, hasked.filter, hasked.log, hasked.keeper, hasked.requests, hasked.mail,
        hasked.silent⟩
  · exact heeds_nil s

theorem acted_of_finish {m : Mail} {rest : List Mail} (hm : s.mail = m :: rest) (e : Exit)
    {said : List Output} (hsaid : said.filterMap Output.log? = [])
    (hview : s.stage = .closing → e = .done →
      ∃ v, m = .replied (.view v) ∧ said = [say (summaryLine v)]) :
    s.Acted (.move .read) ({ s with mail := rest }.finish e said).1
      ({ s with mail := rest }.finish e said).2 := by
  obtain ⟨seen, hout, h⟩ := heeds_finish { s with mail := rest } e said
  rw [hout]
  refine .ended hm h.stage h.keeper ?_ fun hs he => ?_
  · rw [List.filterMap_append, hsaid, h.silent, List.append_nil]
  · obtain ⟨v, hv, rfl⟩ := hview hs he
    exact ⟨v, hv, rfl⟩

/-- What is in the mail is taken by the command where it waits for it, and ignored elsewhere. -/
theorem acted_of_read (hr : s.Runs filter) (h : s.read = some (s', out)) :
    s.Acted (.move .read) s' out := by
  unfold read at h
  split at h
  case h_2 => cases h
  case h_1 m rest hm =>
  obtain ⟨rfl, rfl⟩ := Prod.ext_iff.1 (Option.some.inj h)
  -- one case for each place where the command can be and what it waits for there
  fun_cases open_ { s with mail := rest } m with
  | case1 task u hs =>
    have hs : s.stage = .connecting task := hs
    rw [Runs, hs] at hr
    subst hr
    exact .setOut hs hm ((heeds_prompt _ _).trans (heeds_asked _ _ nofun))
  | case7 l hs =>
    obtain ⟨hstage, hfilter, hlog, hkeeper, hrequests, hmail, hsilent⟩ :=
      heeds_asked { s with
        mail := rest
        stage := .starting
        follow := .fresh s.follow.filter } asker (r := .start s.config.start) nofun
    exact .loaded hs hm ⟨hstage, hfilter, hlog, hkeeper, hrequests, hmail, hsilent⟩
  | case9 n hs => exact .started hs hm
  | case12 v hs => exact acted_of_finish hm _ rfl fun _ _ => ⟨v, rfl, rfl⟩
  | case13 e hs => exact acted_of_finish hm _ rfl fun _ he => nomatch he
  | case14 =>
    exact .aside ⟨nofun, nofun⟩ ⟨rfl, rfl, rfl, rfl, fun _ h => h,
      fun _ h => .inl (hm ▸ List.mem_cons_of_mem _ h), rfl⟩
  | case2 _ _ hs | case3 _ _ hs | case4 _ _ hs | case5 _ hs | case6 _ hs | case8 _ hs | case10 hs
  | case11 _ _ hs =>
    exact acted_of_finish hm _ rfl fun h _ => nomatch h.symm.trans hs

/-- The latest view is shown.  With the last one of the run, following it is over. -/
theorem acted_of_look (hs : s.stage = .following) (h : s.look = some (s', out)) :
    s.Acted (.move .look) s' out := by
  unfold look Follow.look at h
  split at h
  case isFalse => cases h
  obtain ⟨rfl, rfl⟩ := Prod.ext_iff.1 (Option.some.inj h)
  have hnews : ((s.follow.news s.station.keeper.published).map Output.line).filterMap Output.log? =
      [] := by
    rw [Follow.news, List.map_map, List.filterMap_map]
    exact List.filterMap_eq_nil_iff.2 fun _ _ => rfl
  by_cases hl : s.follow.last s.station.keeper.published = true
  · simp only [if_pos hl]
    exact .lastSeen hs hl hnews
  · simp only [if_neg hl]
    exact .aside ⟨nofun, nofun⟩ ⟨rfl, rfl, rfl, rfl, fun _ h => h, fun _ h => .inl h, hnews⟩

/-- What is left of the log is taken, up to the first gap. -/
theorem acted_of_drain (hs : s.stage = .draining) :
    s.Acted (.move .drain) s.drain.1 s.drain.2 := by
  unfold drain Follow.drain
  cases ht : s.follow.log.take? with
  | none => exact .dried hs rfl fun e log h => nomatch ht.symm.trans h
  | some taken =>
    obtain ⟨heard, log⟩ := taken
    cases heard with
    | entry e => exact .drained hs ht
    | missed n => exact .dried hs rfl fun e log h => nomatch ht.symm.trans h

theorem acted_of_part (hs : s.stage = .parting) : s.Acted (.move .part) s.part.1 s.part.2 := by
  unfold part Follow.report
  split
  · exact .parted hs rfl rfl
  · exact .parted hs rfl rfl

theorem acted_of_conclude (hs : s.stage = .asking) :
    s.Acted (.move .conclude) s.conclude.1 s.conclude.2 :=
  .concluded hs (heeds_askMonitor { s with stage := .closing } asker .view)

/-- **An act does nothing else.** -/
theorem acted_of_act (hr : s.Runs filter) (h : s.act a = some (s', out)) : s.Acted a s' out := by
  cases a with
  | client e =>
    obtain ⟨x, -, hx⟩ := Option.map_eq_some_iff.1 h
    obtain ⟨rfl, rfl⟩ := Prod.ext_iff.1 hx
    exact .aside ⟨nofun, nofun⟩ ((heeds_exchange s _ _ _).trans (heeds_takeHappenings _ _))
  | engine hb =>
    obtain ⟨rfl, rfl⟩ := Prod.ext_iff.1 (Option.some.inj h)
    exact .aside ⟨nofun, nofun⟩ (heeds_exchange s _ _ _)
  | interrupt =>
    obtain ⟨rfl, rfl⟩ := Prod.ext_iff.1 (Option.some.inj h)
    exact .aside ⟨nofun, nofun⟩ (heeds_interrupt s)
  | clock t =>
    obtain ⟨rfl, rfl⟩ := Prod.ext_iff.1 (Option.some.inj h)
    exact .aside ⟨nofun, nofun⟩ (heeds_clockAt s t)
  | move m =>
    change s.step m = some (s', out) at h
    cases m with
    | client =>
      obtain ⟨x, -, hx⟩ := Option.map_eq_some_iff.1 h
      obtain ⟨rfl, rfl⟩ := Prod.ext_iff.1 hx
      exact .aside ⟨nofun, nofun⟩ ((heeds_exchange s _ _ _).trans (heeds_takeHappenings _ _))
    | monitor b =>
      obtain ⟨⟨st, ns⟩, hf, hx⟩ := Option.map_eq_some_iff.1 h
      obtain ⟨rfl, rfl⟩ := Prod.ext_iff.1 hx
      exact .fired hf (heeds_takeNotices _ _)
    | read => exact acted_of_read hr h
    | look =>
      obtain ⟨hs, h⟩ := Option.ite_none_right_eq_some.1 h
      exact acted_of_look hs h
    | hear =>
      obtain ⟨hs, h⟩ := Option.ite_none_right_eq_some.1 h
      rw [Follow.hear_eq, Option.map_map] at h
      obtain ⟨⟨x, log⟩, ht, hx⟩ := Option.map_eq_some_iff.1 h
      obtain ⟨rfl, rfl⟩ := Prod.ext_iff.1 hx
      exact .heard hs ht
    | report =>
      obtain ⟨-, h⟩ := Option.ite_none_right_eq_some.1 h
      obtain ⟨⟨f, told⟩, hf, hx⟩ := Option.map_eq_some_iff.1 h
      unfold Follow.report at hf
      split at hf
      · obtain ⟨rfl, rfl⟩ := Prod.ext_iff.1 (Option.some.inj hf)
        obtain ⟨rfl, rfl⟩ := Prod.ext_iff.1 hx
        exact .aside ⟨nofun, nofun⟩
          ⟨rfl, rfl, rfl, rfl, fun _ h => h, fun _ h => .inl h, rfl⟩
      · cases hf
    | drain =>
      obtain ⟨hs, h⟩ := Option.ite_none_right_eq_some.1 h
      obtain ⟨rfl, rfl⟩ := Prod.ext_iff.1 (Option.some.inj h)
      exact acted_of_drain hs
    | part =>
      obtain ⟨hs, h⟩ := Option.ite_none_right_eq_some.1 h
      obtain ⟨rfl, rfl⟩ := Prod.ext_iff.1 (Option.some.inj h)
      exact acted_of_part hs
    | conclude =>
      obtain ⟨hs, h⟩ := Option.ite_none_right_eq_some.1 h
      obtain ⟨rfl, rfl⟩ := Prod.ext_iff.1 (Option.some.inj h)
      exact acted_of_conclude hs

/-! ### The run of a session -/

theorem Heeds.runs {ns : List Monitor.Notice} (h : s.Heeds ns s' out) (hr : s.Runs filter) :
    s'.Runs filter := by
  unfold Runs at *
  rwa [h.stage, h.filter]

theorem Acted.runs (h : s.Acted a s' out) (hr : s.Runs filter) : s'.Runs filter := by
  cases h with
  | aside _ h => exact h.runs hr
  | fired _ h => exact h.runs hr
  | setOut hs _ h =>
    rw [Runs, hs] at hr
    cases hr
    exact h.runs (show _ = _ from rfl)
  | loaded hs _ h =>
    rw [Runs, hs] at hr
    exact h.runs (show _ = _ from hr)
  | started hs => rwa [Runs, hs] at hr
  | lastSeen hs =>
    rw [Runs, hs] at hr
    exact hr
  | heard hs | drained hs => simpa [Runs, hs] using hr
  | dried hs hf | parted hs hf =>
    rw [Runs, hs] at hr
    exact hf.trans hr
  | concluded hs h =>
    rw [Runs, hs] at hr
    exact h.runs (show _ = _ from hr)
  | ended _ hs' => rw [Runs, hs']; trivial

end Session

end Overseer.Console
