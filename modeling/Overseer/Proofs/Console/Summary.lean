import Overseer.Proofs.Console.Chronicles
import Overseer.Proofs.Monitor.Views

/-!
# What the summary shows

When the console has seen the last view of its run it takes what is left of the log and asks the
monitor for the final view, and the summary is printed from that one.  The request waits in a queue
of its own, and so does the answer to the question that the monitor asks of the engine when a run is
over: which of them the monitor takes first is left open.

* `Chronicle.summary_shows` : the summary shows what has come of the events that the monitor has
  handled before the request for the final view, and of no others.
* `Chronicle.summary_misses_last_status` : it can miss the answer to the last question, even one
  that was there when the console asked.
-/

namespace Overseer.Console

open Overseer.Batch Overseer.Monitor Overseer.Time

namespace Session

variable {s s' : Session} {a : Act} {ns : List Monitor.Notice} {out : List Output}

/-- Nobody has asked for a view, and none is in the mail. -/
structure Unasked (s : Session) : Prop where
  requests : ∀ c, (c, .view) ∉ s.station.requests
  mail : ∀ v, .replied (.view v) ∉ s.mail

/-- The monitor tells of a view only when it is asked for one, and it is the current one. -/
theorem view_of_fire {st : Station} {b : Branch} (hk : s.station.keeper.Sound)
    (hf : s.station.fire b = some (st, ns)) {c : Nat} {v : View}
    (hv : .replied c (.view v) ∈ ns) :
    s.station.event? b = some (.request c .view) ∧ v = s.station.keeper.board.view := by
  cases Station.fires_of_fire hf with
  | @handled e l he hkeep _ _ hreplies =>
    have hstep := Keeper.step_handle hk.gated s.station.now e
    rw [hkeep] at hstep
    have hmem : (c, .view v) ∈ l.filterMap Effect.reply? :=
      hreplies ▸ List.mem_filterMap.2 ⟨_, hv, rfl⟩
    obtain ⟨rfl, rfl, -⟩ := hstep.view_of_reply hmem
    exact ⟨he, rfl⟩
  | finished _ _ _ hq => exact absurd hv (hq.views c v)

theorem Acted.ended_of_ended (h : s.Acted a s' out) {e : Exit} (hs : s.stage = .ended e) :
    ∃ e, s'.stage = .ended e := by
  cases h with
  | aside _ h | fired _ h => exact ⟨e, h.stage.trans hs⟩
  | ended _ hs' => exact ⟨_, hs'⟩
  | setOut hs₁ | loaded hs₁ | started hs₁ | heard hs₁ | lastSeen hs₁ | drained hs₁ | dried hs₁
  | parted hs₁ | concluded hs₁ => exact absurd (hs.symm.trans hs₁) nofun

theorem Acted.merges (h : s.Acted a s' out) (hk : s.station.keeper.Sound) {sch : Bool}
    {snap : Snapshot}
    (he : (Episode.mk s a s' out).event? =
      some (.returned (.polled s.station.keeper.board.epoch sch (.ok snap)))) :
    s'.station.keeper.board = s.station.keeper.board.onRoster
      (s.station.keeper.board.roster.reconcile snap).1 := by
  have hstep := Keeper.step_handle hk.gated s.station.now
    (.returned (.polled s.station.keeper.board.epoch sch (.ok snap)))
  have hkeeper := h.keeper
  rw [handled, List.filterMap_cons, he] at hkeeper
  rw [hkeeper]
  change (s.station.keeper.handle _ _).1.board = _
  generalize s.station.keeper.handle s.station.now _ = r at hstep ⊢
  obtain ⟨k, l⟩ := r
  change s.station.keeper.Step _ _ k l at hstep
  cases hstep with
  | polled | polledSame => rfl
  | pollLate hne => exact absurd rfl hne

theorem Acted.view_of_done (h : s.Acted a s' out) (hs : s.stage = .closing)
    (hs' : s'.stage = .ended .done) :
    ∃ v, .replied (.view v) ∈ s.mail ∧ out.head? = some (say (summaryLine v)) := by
  cases h with
  | ended hm he _ _ hview =>
    obtain ⟨v, rfl, hout⟩ := hview hs (Stage.ended.inj (he.symm.trans hs'))
    exact ⟨v, hm ▸ List.mem_cons_self, hout⟩
  | aside _ h | fired _ h => exact absurd (hs.symm.trans (h.stage.symm.trans hs')) nofun
  | setOut hs₁ | loaded hs₁ | started hs₁ | heard hs₁ | lastSeen hs₁ | drained hs₁ | dried hs₁
  | parted hs₁ | concluded hs₁ => exact absurd (hs.symm.trans hs₁) nofun

end Session

/-- The text that is printed. -/
def Output.text? : Output → Option String
  | .line (.text t) => some t
  | _ => none

theorem head?_eq_say {out : List Output} {t : String} (h : out.head?.bind Output.text? = some t) :
    out.head? = some (Session.say t) := by
  obtain ⟨o, ho, ht⟩ := Option.bind_eq_some_iff.1 h
  unfold Output.text? at ht
  split at ht
  · cases ht
    exact ho
  · cases ht

/-- What the engine answered to a question, if it did. -/
def answer? : Monitor.Return → Option (Nat × Bool × Snapshot)
  | .polled n sch (.ok snap) => some (n, sch, snap)
  | _ => none

theorem eq_polled_of_answer? {r : Monitor.Return} {n : Nat} {sch : Bool} {snap : Snapshot}
    (h : answer? r = some (n, sch, snap)) : r = .polled n sch (.ok snap) := by
  unfold answer? at h
  split at h
  · cases h
    rfl
  · cases h

/-- Who asks for a view. -/
def viewer? : Event → Option Nat
  | .request c .view => some c
  | _ => none

theorem eq_request_of_viewer? {e : Event} {c : Nat} (h : viewer? e = some c) :
    e = .request c .view := by
  unfold viewer? at h
  split at h
  · cases h
    rfl
  · cases h

/-- The monitor takes the command's request for the final view. -/
structure Episode.Views (m : Episode) (v : View) : Prop where
  closing : m.before.stage = .closing
  event : m.event? = some (.request Session.asker .view)
  current : v = m.before.station.keeper.board.view

/-- How it is with requests for a view after the episodes `ps`. -/
structure Asked (ps : List Episode) (s : Session) : Prop where
  /-- Nobody asks before the last view of the run was seen. -/
  unasked : s.stage ≠ .closing → s.Unasked
  /-- Nobody but the command asks. -/
  asker : ∀ c, (c, .view) ∈ s.station.requests → c = Session.asker
  /-- A view in the mail was the current one when the monitor took the request for it. -/
  taken : ∀ v, .replied (.view v) ∈ s.mail →
    ∃ earlier m later, ps = earlier ++ m :: later ∧ m.Views v

section Asked

variable {ps : List Episode} {p : Episode} {s s' : Session} {a : Act} {out : List Output}

theorem Asked.carry (h : Asked ps s)
    (hreq : ∀ c, (c, .view) ∈ s'.station.requests → (c, .view) ∈ s.station.requests)
    (hmail : ∀ v, .replied (.view v) ∈ s'.mail → .replied (.view v) ∈ s.mail)
    (hstage : s.stage = .closing → s'.stage = .closing) : Asked (ps ++ [p]) s' where
  unasked hs' :=
    let hun := h.unasked fun hs => hs' (hstage hs)
    ⟨fun c hc => hun.requests c (hreq c hc), fun v hv => hun.mail v (hmail v hv)⟩
  asker c hc := h.asker c (hreq c hc)
  taken v hv :=
    let ⟨earlier, m, later, hps, hm⟩ := h.taken v (hmail v hv)
    ⟨earlier, m, later ++ [p], by rw [hps]; simp, hm⟩

/-- **One act keeps it so**, unless the command ends. -/
theorem Asked.next (h : Asked ps s) (ha : s.Acted a s' out) (hk : s.station.keeper.Sound)
    (hs' : ∀ e, s'.stage ≠ .ended e) : Asked (ps ++ [⟨s, a, s', out⟩]) s' := by
  cases ha with
  | aside _ hh =>
    exact h.carry hh.requests (fun v hv => (hh.mail v hv).elim id nofun) fun hs => hh.stage.trans hs
  | setOut hs hm hh | loaded hs hm hh =>
    refine h.carry hh.requests (fun v hv => ?_) fun hc => absurd (hs.symm.trans hc) nofun
    exact hm ▸ List.mem_cons_of_mem _ ((hh.mail v hv).elim id nofun)
  | started hs hm =>
    exact h.carry (fun _ hc => hc) (fun v hv => hm ▸ List.mem_cons_of_mem _ hv)
      fun hc => absurd (hs.symm.trans hc) nofun
  | heard => exact h.carry (fun _ hc => hc) (fun _ hv => hv) id
  | lastSeen hs | drained hs | dried hs | parted hs =>
    exact h.carry (fun _ hc => hc) (fun _ hv => hv) fun hc => absurd (hs.symm.trans hc) nofun
  | ended _ he => exact absurd he (hs' _)
  | concluded hs hh =>
    -- the one who asks is the command, and nothing has come yet
    have hun := h.unasked (by rw [hs]; nofun)
    refine ⟨fun hne => absurd hh.stage hne, fun c hc => ?_, fun v hv => ?_⟩
    · have hc := hh.requests c hc
      simp only [Station.ask] at hc
      split at hc
      · rcases List.mem_append.1 hc with hc | hc
        · exact absurd hc (hun.requests c)
        · exact congrArg Prod.fst (List.mem_singleton.1 hc)
      · exact absurd hc (hun.requests c)
    · exact absurd ((hh.mail v hv).elim id nofun) (hun.mail v)
  | @fired b st ns _ _ hf hh =>
    have hsub : st.requests ⊆ s.station.requests := by
      cases Station.fires_of_fire hf with
      | handled _ _ hr => exact hr
      | finished _ _ hr => exact hr
    have hview : ∀ {c v}, .replied c (.view v) ∈ ns →
        (Episode.mk s (.move (.monitor b)) s' out).Views v := by
      intro c v hv
      obtain ⟨he, rfl⟩ := Session.view_of_fire hk hf hv
      have hreq : (c, .view) ∈ s.station.requests := by
        rw [Station.requests_of_event? he]
        exact List.mem_append_left _ List.mem_cons_self
      obtain rfl := h.asker c hreq
      refine ⟨?_, he, rfl⟩
      by_contra hne
      exact (h.unasked hne).requests _ hreq
    refine ⟨fun hne => ?_, fun c hc => h.asker c (hsub (hh.requests c hc)), fun v hv => ?_⟩
    · have hne : s.stage ≠ .closing := fun hs => hne (hh.stage.trans hs)
      have hun := h.unasked hne
      refine ⟨fun c hc => hun.requests c (hsub (hh.requests c hc)), fun v hv => ?_⟩
      rcases hh.mail v hv with hv | ⟨c, hv⟩
      · exact hun.mail v hv
      · exact hne (hview hv).closing
    · rcases hh.mail v hv with hv | ⟨c, hv⟩
      · obtain ⟨earlier, m, later, rfl, hm⟩ := h.taken v hv
        exact ⟨earlier, m, later ++ [⟨s, .move (.monitor b), s', out⟩], by simp, hm⟩
      · exact ⟨ps, _, [], rfl, hview hv⟩

end Asked

/-- The command has seen the last view and has not asked for the final one. -/
def Stage.leaves : Stage → Bool
  | .draining | .parting | .asking => true
  | _ => false

namespace Chronicle

variable {filter : LogFilter} {s t : Session} {ps : List Episode}

theorem asked (h : Chronicle s ps t) (hr : s.Runs filter) (hk : s.station.keeper.Sound)
    (hs : Asked [] s) (ht : ∀ e, t.stage ≠ .ended e) : Asked ps t := by
  induction h with
  | start => exact hs
  | @next ps t a u out h ha ih =>
    have hacted := Session.acted_of_act (h.runs hr) ha
    refine (ih fun e he => ?_).next hacted (h.sound hr hk) ht
    obtain ⟨e, he⟩ := hacted.ended_of_ended he
    exact ht e he

theorem exists_ask (h : Chronicle s ps t) (hr : s.Runs filter) (hs : s.stage ≠ .closing)
    (ht : t.stage = .closing) :
    ∃ earlier q later, ps = earlier ++ q :: later ∧ q.before.stage = .asking ∧
      q.after.stage = .closing := by
  induction h with
  | start => exact absurd ht hs
  | @next ps t a u out h ha ih =>
    have hon : t.stage = .closing → ∃ earlier q later,
        ps ++ [⟨t, a, u, out⟩] = earlier ++ q :: later ∧ q.before.stage = .asking ∧
          q.after.stage = .closing := by
      intro htc
      obtain ⟨earlier, q, later, rfl, hq⟩ := ih htc
      exact ⟨earlier, q, later ++ [⟨t, a, u, out⟩], by simp, hq⟩
    cases Session.acted_of_act (h.runs hr) ha with
    | concluded hf => exact ⟨ps, _, [], rfl, hf, ht⟩
    | aside _ hh | fired _ hh => exact hon (hh.stage.symm.trans ht)
    | heard | drained => exact hon ht
    | setOut _ _ hh | loaded _ _ hh => exact absurd (hh.stage.symm.trans ht) nofun
    | started | lastSeen | dried | parted => cases ht
    | ended _ he => exact absurd (he.symm.trans ht) nofun

theorem exists_look (h : Chronicle s ps t) (hr : s.Runs filter) (hs : s.stage.leaves = false)
    (ht : t.stage.leaves = true) :
    ∃ earlier l later, ps = earlier ++ l :: later ∧ l.before.stage = .following ∧
      l.after.stage = .draining ∧
      l.before.follow.last l.before.station.keeper.published = true := by
  induction h with
  | start => exact absurd (hs.symm.trans ht) Bool.false_ne_true
  | @next ps t a u out h ha ih =>
    have hon : t.stage.leaves = true → ∃ earlier l later,
        ps ++ [⟨t, a, u, out⟩] = earlier ++ l :: later ∧ l.before.stage = .following ∧
          l.after.stage = .draining ∧
          l.before.follow.last l.before.station.keeper.published = true := by
      intro htl
      obtain ⟨earlier, l, later, rfl, hl⟩ := ih htl
      exact ⟨earlier, l, later ++ [⟨t, a, u, out⟩], by simp, hl⟩
    cases Session.acted_of_act (h.runs hr) ha with
    | lastSeen hf hl => exact ⟨ps, _, [], rfl, hf, rfl, hl⟩
    | aside _ hh | fired _ hh => exact hon (hh.stage ▸ ht)
    | heard | drained => exact hon ht
    | dried hf | parted hf => exact hon (by rw [hf]; rfl)
    | setOut _ _ hh | loaded _ _ hh | concluded _ hh =>
      rw [hh.stage] at ht
      cases ht
    | started => cases ht
    | ended _ he =>
      rw [he] at ht
      cases ht

variable {c : Config} {wallets : Host.FileContent} {origin : Moment} {listening : Bool}
  {ids : Engine.IdSource}
  {before after : List Episode} {p : Episode}

theorem begin_asked :
    Asked [] (Session.begin c wallets (.run filter) origin listening ids).1 := by
  have hun : (Session.begin c wallets (.run filter) origin listening ids).1.Unasked :=
    ⟨fun c hc => (List.not_mem_nil (begin_heeds.requests c hc)).elim,
      fun v hv => (begin_heeds.mail v hv).elim (fun h => (List.not_mem_nil h).elim) nofun⟩
  exact ⟨fun _ => hun, fun c hc => absurd hc (hun.requests c), fun v hv => absurd hv (hun.mail v)⟩

/-! ### A last status that waits -/

/-- The run starts, and a closing message comes in. -/
def uptoClosing : List Act := [
  .move (.monitor .returned), .move .read, .move .client,
  incoming none (.log ⟨"a", "All tasks completed", .info, none⟩)]

/-- The engine answers the question that is asked at the end: the account has succeeded. -/
def lastStatus : List Act := [
  .move .client,
  incoming (some 3)
    (.status ⟨some 1, false, Table.empty.insert "a" ⟨some true, true, "done", none⟩⟩),
  .move .client]

/-- The command sees the last view, takes the one entry that is left of the log, and asks for the
final view. -/
def uptoRequest : List Act :=
  [.move .look, .move .drain, .move .drain, .move .part, .move .conclude]

/-- The summary if the answer is merged. -/
def doneText : String :=
  "run 1 finished: processed 1/1 | running 0 | success 1 | failed 0 | pending 0"

/-- The summary if it is not. -/
def pendingText : String :=
  "run 1 finished: processed 0/1 | running 0 | success 0 | failed 0 | pending 1"

/-- Whether the acts lead to the end of the command, and this is its summary. -/
def sums (s : Session) (acts : List Act) (text : String) : Bool :=
  (s.play acts).any fun r => (r.2.act (.move .read)).any fun p => decide
    (r.2.stage = .closing ∧ p.1.stage = .ended .done ∧ p.2.head?.bind Output.text? = some text)

theorem exists_of_sums {acts : List Act} {text : String} (h : sums s acts text = true) :
    ∃ ps t u out, s.play acts = some (ps, t) ∧ t.act (.move .read) = some (u, out) ∧
      t.stage = .closing ∧ u.stage = .ended .done ∧ out.head? = some (Session.say text) := by
  obtain ⟨⟨ps, t⟩, hplay, h⟩ := (Option.any_eq_true _ _).1 h
  obtain ⟨⟨u, out⟩, hread, h⟩ := (Option.any_eq_true _ _).1 h
  obtain ⟨ht, hu, htext⟩ := of_decide_eq_true h
  exact ⟨ps, t, u, out, hplay, hread, ht, hu, head?_eq_say htext⟩

/-- In a small batch the answer to the question that is asked at the end can wait when the command
has asked for the final view.  The monitor may take the request first, or the answer. -/
theorem exists_lastStatus_waits :
    ∃ before x between s n sch snap m out,
      Chronicle smallBatch (before ++ x :: between) s ∧
      x.before.stage = .following ∧ (x.event?.bind Event.log?).any LogEvent.closing = true ∧
      x.before.station.keeper.board.lifecycle = .running ∧
      x.after.station.keeper.board.lifecycle = .idle ∧
      x.after.errands.map (·.caller) = x.before.errands.map (·.caller) ++ [n] ∧
      s.errands.map (·.caller) = x.before.errands.map (·.caller) ∧
      s.station.returns = [.polled 1 sch (.ok snap)] ∧
      summaryLine (s.station.keeper.board.onRoster
          (s.station.keeper.board.roster.reconcile snap).1).view = doneText ∧
      s.station.event? .request = some (.request Session.asker .view) ∧
      s.act (.move (.monitor .request)) = some (m, out) ∧
      sums m [] pendingText = true ∧
      sums s [.move (.monitor .returned), .move (.monitor .request)] doneText = true := by
  have hplay :
      ((smallBatch.play (uptoAccounts ++ .move .read :: (uptoStart ++ uptoClosing))).bind fun a =>
      (a.2.act (.move (.monitor .log))).bind fun x =>
      (x.1.play (lastStatus ++ uptoRequest)).bind fun b =>
      (b.2.act (.move (.monitor .request))).map fun m =>
        decide (a.2.stage = .following ∧
          ((a.2.station.event? .log).bind Event.log?).any LogEvent.closing = true ∧
          a.2.station.keeper.board.lifecycle = .running ∧
          x.1.station.keeper.board.lifecycle = .idle ∧
          x.1.errands.map (·.caller) = a.2.errands.map (·.caller) ++ [3] ∧
          b.2.errands.map (·.caller) = a.2.errands.map (·.caller) ∧
          (b.2.station.returns.map fun r => (answer? r).map fun w => (w.1, summaryLine
            (b.2.station.keeper.board.onRoster
              (b.2.station.keeper.board.roster.reconcile w.2.2).1).view)) = [some (1, doneText)] ∧
          (b.2.station.event? .request).bind viewer? = some Session.asker ∧
          sums m.1 [] pendingText = true ∧
          sums b.2 [.move (.monitor .returned), .move (.monitor .request)] doneText = true)) =
        some true := by
    decide +kernel
  obtain ⟨⟨before, s₁⟩, hbefore, h⟩ := Option.bind_eq_some_iff.1 hplay
  obtain ⟨⟨s₂, out₁⟩, hclosing, h⟩ := Option.bind_eq_some_iff.1 h
  obtain ⟨⟨between, s₃⟩, hbetween, h⟩ := Option.bind_eq_some_iff.1 h
  obtain ⟨⟨s₄, out₂⟩, htaken, h⟩ := Option.map_eq_some_iff.1 h
  obtain ⟨hs₁, hlog, hrunning, hidle, hasks, hanswered, hreturns, hview, hmissed, hshown⟩ :=
    of_decide_eq_true h
  obtain ⟨r, hr, hanswer⟩ := List.map_eq_singleton_iff.1 hreturns
  obtain ⟨⟨n, sch, snap⟩, ha, hmerged⟩ := Option.map_eq_some_iff.1 hanswer
  obtain ⟨rfl, hmerged⟩ := Prod.mk.inj hmerged
  obtain ⟨e, he, hviewer⟩ := Option.bind_eq_some_iff.1 hview
  refine ⟨before, ⟨s₁, .move (.monitor .log), s₂, out₁⟩, between, s₃, 3, sch, snap, s₄, out₂,
    (of_play hbefore).append (.cons hclosing (of_play hbetween)), hs₁, hlog, hrunning, hidle,
    hasks, hanswered, ?_, hmerged, ?_, htaken, hmissed, hshown⟩
  · exact hr.trans (congrArg (fun w => [w]) (eq_polled_of_answer? ha))
  · exact he.trans (congrArg some (eq_request_of_viewer? hviewer))

/-! ### The summary -/

/-- The summary that is printed in `p` is about what the monitor had handled when it took, in `m`,
the request that the command had made in `q`, after it had seen the last view in `l`. -/
structure Summed (set : Settings) (earlier : List Episode) (l : Episode) (leaving : List Episode)
    (q : Episode) (between : List Episode) (m p : Episode) : Prop where
  seen : l.before.stage = .following ∧ l.after.stage = .draining ∧
    l.before.follow.last l.before.station.keeper.published = true
  asked : q.before.stage = .asking ∧ q.after.stage = .closing
  taken : m.before.stage = .closing ∧ m.event? = some (.request Session.asker .view)
  /-- The summary shows what has come of the events before that. -/
  shown : p.shown.head? = some (Session.say (summaryLine
    ((Keeper.initial set).run
      (handled (earlier ++ l :: (leaving ++ q :: between)))).1.board.view))
  /-- Every status of the current run among them was merged. -/
  merged : ∀ x ∈ earlier ++ l :: (leaving ++ q :: between), ∀ sch snap,
    x.event? = some (.returned (.polled x.before.station.keeper.board.epoch sch (.ok snap))) →
      x.after.station.keeper.board = x.before.station.keeper.board.onRoster
        (x.before.station.keeper.board.roster.reconcile snap).1

/-- **The summary shows what the monitor knew when it took the request for the final view.**  A
status that it takes later is not in it. -/
theorem summary_shows
    (h : Chronicle (Session.begin c wallets (.run filter) origin listening ids).1
      (before ++ p :: after) s)
    (hp : p.before.stage = .closing) (hp' : p.after.stage = .ended .done) :
    ∃ earlier l leaving q between m later,
      before = earlier ++ l :: (leaving ++ q :: (between ++ m :: later)) ∧
      Summed c.monitor earlier l leaving q between m p := by
  obtain ⟨hbefore, hact, -⟩ := h.around
  have hacted := Session.acted_of_act (hbefore.runs begin_runs) hact
  obtain ⟨v, hv, hshown⟩ := hacted.view_of_done hp hp'
  have hasked := hbefore.asked begin_runs begin_sound begin_asked (by rw [hp]; nofun)
  obtain ⟨upto, m, later, rfl, hm⟩ := hasked.taken v hv
  obtain ⟨hupto, -, -⟩ := hbefore.around
  obtain ⟨first, q, between, rfl, hq⟩ :=
    hupto.exists_ask begin_runs (by rw [begin_heeds.stage]; nofun) hm.closing
  obtain ⟨hfirst, -, -⟩ := hupto.around
  obtain ⟨earlier, l, leaving, rfl, hl⟩ :=
    hfirst.exists_look begin_runs (by rw [begin_heeds.stage]; rfl) (by rw [hq.1]; rfl)
  have hall : (earlier ++ l :: leaving) ++ q :: between =
      earlier ++ l :: (leaving ++ q :: between) := by simp
  rw [hall] at hupto
  refine ⟨earlier, l, leaving, q, between, m, later, by simp, hl, hq, ⟨hm.closing, hm.event⟩, ?_,
    fun x hx sch snap he => ?_⟩
  · rw [hshown, hm.current, hupto.keeper_eq_run begin_runs, begin_keeper]
  · obtain ⟨l, r, hlr⟩ := List.append_of_mem hx
    rw [hlr] at hupto
    obtain ⟨hl, -, -⟩ := hupto.around
    exact (hupto.acted begin_runs).merges (hl.sound begin_runs begin_sound) he

/-- If the monitor takes the last status before the request, the summary shows it. -/
theorem summary_shows_of_prompt_status :
    ∃ before p s, Chronicle smallBatch (before ++ p :: []) s ∧
      p.before.stage = .closing ∧ p.after.stage = .ended .done ∧
      p.shown.head? = some (Session.say
        "run 1 finished: processed 1/1 | running 0 | success 1 | failed 0 | pending 0") ∧
      ∃ earlier l leaving q between m later,
        before = earlier ++ l :: (leaving ++ q :: (between ++ m :: later)) ∧
        Summed smallConfig.monitor earlier l leaving q between m p := by
  obtain ⟨before, x, between, s, n, sch, snap, m, out, hrun, -, -, -, -, -, -, -, -, -, -, -,
    hshown⟩ := exists_lastStatus_waits
  obtain ⟨ps, t, u, out, hplay, hread, ht, hu, htext⟩ := exists_of_sums hshown
  have hwhole := (hrun.append (of_play hplay)).next hread
  exact ⟨_, _, u, hwhole, ht, hu, htext, hwhole.summary_shows ht hu⟩

/-- **The summary can miss the last status.**  The run has started, a closing message ends it in
`x`, and the engine has answered the question that is asked then: the answer waits when the monitor
takes the request for the final view in `m`. -/
theorem summary_misses_last_status :
    ∃ before x between m p s n sch snap,
      Chronicle smallBatch (before ++ x :: (between ++ m :: [p])) s ∧
      x.before.stage = .following ∧ (x.event?.bind Event.log?).any LogEvent.closing = true ∧
      x.before.station.keeper.board.lifecycle = .running ∧
      x.after.station.keeper.board.lifecycle = .idle ∧
      x.after.errands.map (·.caller) = x.before.errands.map (·.caller) ++ [n] ∧
      m.before.errands.map (·.caller) = x.before.errands.map (·.caller) ∧
      m.before.station.returns = [.polled 1 sch (.ok snap)] ∧
      m.event? = some (.request Session.asker .view) ∧
      p.before.stage = .closing ∧ p.after.stage = .ended .done ∧
      p.shown.head? = some (Session.say
        "run 1 finished: processed 0/1 | running 0 | success 0 | failed 0 | pending 1") ∧
      summaryLine (m.before.station.keeper.board.onRoster
          (m.before.station.keeper.board.roster.reconcile snap).1).view =
        "run 1 finished: processed 1/1 | running 0 | success 1 | failed 0 | pending 0" := by
  obtain ⟨before, x, between, s, n, sch, snap, m, out, hrun, hx, hlog, hrunning, hidle, hasks,
    hanswered, hreturns, hmerged, hview, htaken, hmissed, -⟩ := exists_lastStatus_waits
  obtain ⟨ps, t, u, out', hplay, hread, ht, hu, htext⟩ := exists_of_sums hmissed
  obtain ⟨rfl, rfl⟩ := Prod.mk.inj (Option.some.inj hplay)
  have hwhole := hrun.append (.cons htaken (.cons hread .start))
  rw [List.append_assoc, List.cons_append] at hwhole
  exact ⟨before, x, between, ⟨s, .move (.monitor .request), m, out⟩, ⟨m, .move .read, u, out'⟩, u,
    n, sch, snap, hwhole, hx, hlog, hrunning, hidle, hasks, hanswered, hreturns, hview, ht, hu,
    htext, hmerged⟩

end Chronicle

end Overseer.Console
