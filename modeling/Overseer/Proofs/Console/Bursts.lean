import Overseer.Proofs.Console.Tally
import Overseer.Proofs.Engine.Logs

/-!
# A burst of log lines at the start of a run

The engine may accept the start of a run, end it and send any number of log lines before the monitor
takes the first of it.  The monitor may take the log before the answer, and the command waits for
the answer all that time (`Session.AwaitsStart`).

* `Session.receives` : any number of log lines comes in.
* `Session.AwaitsStart.ingests` : the monitor takes all of them, and the command still waits.
* `Session.AwaitsStart.ends` : the run can be over and the command with it, and a console that is
  behind tells nothing of the log then.
* `exists_awaitsStart` : this happens.
-/

namespace Overseer.Monitor

open Overseer.Batch Overseer.Time

/-! ### A closing message that is held back -/

/-- The monitor holds back a closing message until the engine has taken the start of run `n`, and
nobody waits for the end of the run. -/
structure Keeper.Holds (k : Keeper) (n : Nat) : Prop where
  sound : k.Sound
  epoch : k.board.epoch = n
  awaiting : k.board.awaiting = some n
  held : k.board.held = true
  active : k.board.lifecycle ≠ .idle
  alone : k.waiters = []

namespace Keeper.Holds

variable {k : Keeper} {n : Nat}

theorem ingest (h : k.Holds n) (now : Nat) (x : LogEvent) (at_ : Moment) :
    ∃ k', k.handle now (.log x at_) = (k', [.entry (k.board.journal.entryOf x at_), .published]) ∧
      k'.Holds n := by
  have hstep := Keeper.step_handle h.sound.gated now (.log x at_)
  have hsound := hstep.sound h.sound
  generalize k.handle now (.log x at_) = out at hstep hsound
  obtain ⟨k', l⟩ := out
  cases hstep with
  | logged => exact ⟨_, rfl, hsound, h.epoch, h.awaiting, h.held, h.active, h.alone⟩
  | heldBack => exact ⟨_, rfl, hsound, h.epoch, h.awaiting, rfl, h.active, h.alone⟩
  | closed _ _ ha => exact absurd (ha.symm.trans h.awaiting) nofun

theorem take (h : k.Holds n) (now c : Nat) :
    k.handle now (.returned (.started c n (.ok ()))) =
      (k.unattended.showing k.board.ended,
        [.reply c (.epoch n), .call (.poll n false), .published]) := by
  have hstep := Keeper.step_handle h.sound.gated now (.returned (.started c n (.ok ())))
  generalize k.handle now (.returned (.started c n (.ok ()))) = out at hstep ⊢
  obtain ⟨k', l⟩ := out
  change k.Step now _ k' l at hstep
  cases hstep with
  | takenOver =>
    rw [Keeper.tell, h.alone]
    rfl
  | taken _ hh => exact absurd (hh.symm.trans h.held) Bool.false_ne_true
  | takenLate ha | takenTwice ha => exact absurd h.awaiting ha

end Keeper.Holds

end Overseer.Monitor

namespace Overseer.Console

open Overseer.Batch Overseer.Monitor Overseer.Time

/-! ### Log lines that come in -/

/-- A frame with a log event comes in, and the one sink of the client is told. -/
theorem happen_of_log {x : Engine.Exchange} {conn k : Nat} {feed : Wire.Feed} {chunk : List UInt8}
    {e : LogEvent} (hl : x.client.link = .up conn feed)
    (hfeed : (feed.push Wire.Envelope.read chunk).1 = feed)
    (hlogs : (Wire.frames (feed.push Wire.Envelope.read chunk).2).map Wire.Envelope.log? = [some e])
    (hs : x.client.board.sinks = [k]) (ht : x.client.board.taken = [k]) :
    x.happen (.receive chunk) = some (x, [.client (.logged k e)]) := by
  obtain ⟨env, hframes, henv⟩ := List.map_eq_singleton_iff.1 hlogs
  have hroute : x.client.board.routeAll [env] = (x.client.board, [.log k e]) := by
    generalize x.client.board = b at hs ht ⊢
    obtain ⟨_, sinks, taken, _, _⟩ := b
    obtain rfl : sinks = [k] := hs
    obtain rfl : taken = [k] := ht
    simp [Engine.Switchboard.routeAll, Engine.Switchboard.route_of_log?_some _ henv,
      Engine.Switchboard.dispatch]
  have hclient : { x.client with link := .up conn feed, board := x.client.board } = x.client := by
    rw [← hl]
  simp [Engine.Exchange.happen, Engine.Client.step, Engine.Client.receive, hl, hfeed, hframes,
    hroute, Engine.Client.routed, Engine.Client.deliver, hclient, Engine.Exchange.observeAll,
    Engine.Exchange.observe]

namespace Session

variable {s t : Session} {chunk : List UInt8} {e : LogEvent} {rest : List LogEvent} {n : Nat}

/-- The console waits for the start of run `n`.  The engine has accepted it, but the monitor has not
taken that answer yet, and it holds back a closing message. -/
structure AwaitsStart (s : Session) (n : Nat) : Prop where
  stage : s.stage = .starting
  mail : s.mail = []
  keeper : s.station.keeper.Holds n
  alive : s.station.alive = true
  requests : s.station.requests = []
  returns : s.station.returns = [.started asker n (.ok ())]
  /-- The client takes a question for the engine. -/
  asks : ∃ x, s.exchange.happen (.ask s.next (.status n)) = some (x, [])

/-- The session with more log events for the monitor. -/
def withLogs (s : Session) (l : List LogEvent) : Session :=
  { s with station := { s.station with logs := s.station.logs ++ l } }

theorem AwaitsStart.withLogs (h : s.AwaitsStart n) (l : List LogEvent) :
    (s.withLogs l).AwaitsStart n :=
  ⟨h.stage, h.mail, h.keeper, h.alive, h.requests, h.returns, h.asks⟩

theorem receives (ha : s.station.alive = true)
    (hx : ∃ k, s.exchange.happen (.receive chunk) = some (s.exchange, [.client (.logged k e)]))
    (n : Nat) :
    ∃ ps, Chronicle s ps (s.withLogs (List.replicate n e)) ∧ ingested ps = [] ∧ tells ps = [] := by
  obtain ⟨k, hx⟩ := hx
  induction n with
  | zero =>
    refine ⟨[], ?_, rfl, rfl⟩
    rw [withLogs, List.replicate_zero, List.append_nil]
    exact .start
  | succ n ih =>
    obtain ⟨ps, hps, hingested, htells⟩ := ih
    have hreceive : (s.withLogs (List.replicate n e)).act (.client (.receive chunk)) =
        some (s.withLogs (List.replicate (n + 1) e), []) := by
      simp [act, withLogs, hx, takeHappenings, takeHappening, Station.emit, ha,
        List.replicate_succ']
    refine ⟨_, hps.next hreceive, ?_, ?_⟩
    · rw [ingested_concat, hingested, Episode.ingested?_eq_none (by simp), Option.toList_none,
        List.append_nil]
    · rw [tells_concat, htells, Episode.tells_of_silent (by simp) rfl, List.append_nil]

theorem AwaitsStart.ingest (h : s.AwaitsStart n) (hl : s.station.logs = e :: rest) :
    ∃ t, s.act (.move (.monitor .log)) = some (t, []) ∧ t.AwaitsStart n ∧
      t.station.logs = rest ∧
      (Episode.mk s (.move (.monitor .log)) t []).ingested?.isSome = true := by
  have he : s.station.event? .log = some (.log e s.station.moment) := by
    simp [Station.event?, h.alive, hl]
  obtain ⟨k, hk, hholds⟩ := h.keeper.ingest s.station.now e s.station.moment
  have hfire : s.station.fire .log = some
      ({ s.station.taken .log with keeper := k },
        [.logged (s.station.keeper.board.journal.entryOf e s.station.moment), .published]) := by
    rw [Station.fire_of_event? he, Station.handle, Station.taken_keeper, Station.taken_now, hk]
    rfl
  refine ⟨{ s with
    station := { s.station.taken .log with keeper := k }
    follow := (s.follow.send (s.station.keeper.board.journal.entryOf e s.station.moment)).publish },
    ?_, ⟨h.stage, h.mail, hholds, h.alive, h.requests, h.returns, h.asks⟩, congrArg List.tail hl,
    ?_⟩
  · rw [act, step, hfire]
    rfl
  · rw [Episode.ingested?, Episode.event?_monitor, he]
    rfl

theorem AwaitsStart.ingests {m : Nat} (h : s.AwaitsStart n)
    (hl : s.station.logs = List.replicate m e) :
    ∃ ps t, Chronicle s ps t ∧ t.AwaitsStart n ∧ (ingested ps).length = m ∧ tells ps = [] := by
  induction m generalizing s with
  | zero => exact ⟨[], s, .start, h, rfl, rfl⟩
  | succ m ih =>
    obtain ⟨t, ha, ht, hrest, hsome⟩ := h.ingest hl
    obtain ⟨entry, hentry⟩ := Option.isSome_iff_exists.1 hsome
    obtain ⟨ps, u, hps, hu, hingested, htells⟩ := ih ht hrest
    refine ⟨_, u, hps.cons ha, hu, ?_, ?_⟩
    · rw [ingested, List.filterMap_cons, hentry]
      exact congrArg (· + 1) hingested
    · rw [tells, List.flatMap_cons, Episode.tells_of_silent (by simp) rfl]
      exact htells

theorem AwaitsStart.take (h : s.AwaitsStart n) :
    ∃ t, s.act (.move (.monitor .returned)) = some (t, []) ∧
      (Episode.mk s (.move (.monitor .returned)) t []).ingested? = none ∧ t.stage = .starting ∧
      t.mail = [.replied (.epoch n)] ∧ t.follow = s.follow.publish ∧
      t.station.keeper = s.station.keeper.unattended.showing s.station.keeper.board.ended ∧
      t.station.alive = true ∧ t.station.requests = [] := by
  have he : s.station.event? .returned = some (.returned (.started asker n (.ok ()))) := by
    simp [Station.event?, h.alive, h.returns]
  obtain ⟨x, hx⟩ := h.asks
  have hfire : s.station.fire .returned = some (((s.station.taken .returned).handle
      (.returned (.started asker n (.ok ())))).1,
      [.replied asker (.epoch n), .called (s.station.issued.poll + 1) (.poll n false),
        .published]) := by
    rw [Station.fire_of_event? he]
    refine congrArg some (Prod.ext rfl ?_)
    rw [Station.handle, Station.taken_keeper, Station.taken_now, h.keeper.take]
    rfl
  refine ⟨{ s with
    station := ((s.station.taken .returned).handle (.returned (.started asker n (.ok ())))).1
    mail := [.replied (.epoch n)]
    exchange := x
    errands := s.errands ++ [⟨s.next, s.station.issued.poll + 1, .poll n false⟩]
    next := s.next + 1
    follow := s.follow.publish }, ?_, ?_, h.stage, rfl, rfl, ?_, ?_, ?_⟩
  · rw [act, step, hfire]
    simp [takeNotices, takeNotice, hear, asker, stopper, h.mail, place, requestOf, askEngine,
      prompt, Engine.Exchange.prompt, hx, takeHappenings]
  · rw [Episode.ingested?, Episode.event?_monitor, he]
    rfl
  · rw [Station.handle_keeper, Station.taken_keeper, Station.taken_now, h.keeper.take]
  · rw [Station.handle_alive, Station.taken_alive, h.alive]
  · exact (Station.handle_requests ..).trans h.requests

theorem act_read {m : Mail} {others : List Mail} (hm : s.mail = m :: others) :
    s.act (.move .read) = some ({ s with mail := others }.open_ m) := by
  show Session.read s = _
  rw [Session.read, hm]

theorem act_drain (hs : s.stage = .draining) : s.act (.move .drain) = some s.drain := if_pos hs

theorem act_part (hs : s.stage = .parting) : s.act (.move .part) = some s.part := if_pos hs

theorem act_conclude (hs : s.stage = .asking) : s.act (.move .conclude) = some s.conclude :=
  if_pos hs

theorem act_read_epoch (hs : s.stage = .starting) (hm : s.mail = [.replied (.epoch n)]) :
    s.act (.move .read) = some ({ s with
      mail := []
      stage := .following
      follow := { s.follow with epoch := n } }, []) := by
  rw [act_read hm]
  obtain ⟨⟩ := s
  cases hs
  rfl

theorem look_last (hs : s.stage = .following) (hu : s.follow.unseen = true)
    (hl : s.follow.last s.station.keeper.published = true) :
    ∃ out, s.act (.move .look) = some ({ s with
        follow := s.follow.seen s.station.keeper.published
        stage := .draining }, out) ∧ out.filterMap Output.log? = [] := by
  have hlook : s.act (.move .look) = s.look := if_pos hs
  have hshown : s.look = some ({ s with
      follow := s.follow.seen s.station.keeper.published
      stage := .draining }, (s.follow.news s.station.keeper.published).map .line) := by
    simp only [look, Follow.look, if_pos hu, Option.map_some, if_pos hl]
    rfl
  refine ⟨_, hlook.trans hshown, ?_⟩
  rw [Follow.news, List.map_map, List.filterMap_map]
  exact List.filterMap_eq_nil_iff.2 fun _ _ => rfl

theorem dries (hs : s.stage = .draining)
    (ht : ∀ e log, s.follow.log.take? ≠ some (.entry e, log)) :
    ∃ q f, Chronicle s [q] { s with follow := f, stage := .parting } ∧
      q.before.stage = .draining ∧ q.after.stage = .parting ∧ q.tells = [] := by
  have hdry : ∃ f, s.drain = ({ s with follow := f, stage := .parting }, []) := by
    unfold drain Follow.drain
    cases htake : s.follow.log.take? with
    | none => exact ⟨_, rfl⟩
    | some taken =>
      obtain ⟨heard, log⟩ := taken
      cases heard with
      | entry e => exact absurd htake (ht e log)
      | missed => exact ⟨_, rfl⟩
  obtain ⟨f, hf⟩ := hdry
  exact ⟨_, f, .cons ((act_drain hs).trans (congrArg some hf)) .start, hs, rfl, rfl⟩

/-- The command takes what is left of the log.  If it is behind, it takes nothing. -/
theorem drains (hs : s.stage = .draining) :
    ∃ ps q f, Chronicle s (ps ++ [q]) { s with follow := f, stage := .parting } ∧
      q.before.stage = .draining ∧ q.after.stage = .parting ∧ ingested ps = [] ∧
      (s.follow.log.missed ≠ 0 → tells (ps ++ [q]) = []) := by
  induction hw : s.follow.log.waiting generalizing s with
  | nil =>
    obtain ⟨q, f, h, hq, hq', htells⟩ := dries hs fun e log => by
      unfold Follower.take?
      rw [hw]
      split <;> simp
    exact ⟨[], q, f, h, hq, hq', rfl, fun _ => by simp [tells, htells]⟩
  | cons e rest ih =>
    by_cases hbehind : s.follow.log.missed = 0
    · have hone : s.drain = ({ s with
          follow := { s.follow with log := { s.follow.log with waiting := rest } } },
          (s.follow.entryLines e).map .line) := by
        simp [drain, Follow.drain, Follower.take?, hbehind, hw]
      obtain ⟨ps, q, f, hps, hq, hq', hnone, -⟩ := @ih { s with
        follow := { s.follow with log := { s.follow.log with waiting := rest } } } hs rfl
      refine ⟨_ :: ps, q, f, .cons ((act_drain hs).trans (congrArg some hone)) hps, hq, hq', ?_,
        fun hne => absurd hbehind hne⟩
      rw [ingested, List.filterMap_cons_none (Episode.ingested?_eq_none (by simp))]
      exact hnone
    · obtain ⟨q, f, h, hq, hq', htells⟩ := dries hs fun e log => by
        simp [Follower.take?, hbehind]
      exact ⟨[], q, f, h, hq, hq', rfl, fun _ => by simp [tells, htells]⟩

theorem concludes (hs : s.stage = .parting) (ha : s.station.alive = true) :
    ∃ d e t, Chronicle s [d, e] t ∧ t.stage = .closing ∧ t.mail = s.mail ∧
      t.station.alive = true ∧ t.station.requests = s.station.requests ++ [(asker, .view)] ∧
      d.tells = [] ∧ e.tells = [] := by
  have hpart : ∃ f told, s.part = ({ s with follow := f, stage := .asking }, told) ∧
      told.filterMap Output.log? = [] := by
    unfold part Follow.report
    split <;> exact ⟨_, _, rfl, rfl⟩
  obtain ⟨f, told, hf, hsilent⟩ := hpart
  have hask : { s with follow := f, stage := .asking }.conclude = ({ s with
      follow := f
      stage := .closing
      station := { s.station with
        requests := s.station.requests ++ [(asker, .view)]
        callers := s.station.callers ++ [asker] } }, []) := by
    simp [conclude, askMonitor, Station.ask, ha, takeNotices]
  have hconclude := (act_conclude (s := { s with follow := f, stage := .asking }) rfl).trans
    (congrArg some hask)
  exact ⟨_, _, _, .cons ((act_part hs).trans (congrArg some hf)) (.cons hconclude .start), rfl, rfl,
    ha, rfl, Episode.tells_of_silent (by simp) hsilent, Episode.tells_of_silent (by simp) rfl⟩

theorem read_view {v : View} {others : List Mail} (hs : s.stage = .closing)
    (hm : s.mail = .replied (.view v) :: others) :
    ∃ t out, s.act (.move .read) = some (t, out) ∧ t.stage = .ended .done ∧
      out.filterMap Output.log? = [] := by
  obtain ⟨seen, hout, h⟩ := heeds_finish { s with mail := others } .done [say (summaryLine v)]
  have hread : s.act (.move .read) =
      some ({ s with mail := others }.finish .done [say (summaryLine v)]) := by
    rw [act_read hm]
    obtain ⟨⟩ := s
    cases hs
    rfl
  generalize { s with mail := others }.finish .done [say (summaryLine v)] = gone at hread hout h
  refine ⟨gone.1, gone.2, hread, h.stage, ?_⟩
  rw [hout, List.filterMap_append, h.silent]
  rfl

theorem close (hs : s.stage = .closing) (hm : s.mail = []) (ha : s.station.alive = true)
    (hr : s.station.requests = [(asker, .view)]) :
    ∃ b c t, Chronicle s [b, c] t ∧ t.stage = .ended .done ∧ b.tells = [] ∧ c.tells = [] := by
  have he : s.station.event? .request = some (.request asker .view) := by
    simp [Station.event?, ha, hr]
  have hfire : s.station.fire .request = some (((s.station.taken .request).handle
      (.request asker .view)).1, [.replied asker (.view s.station.keeper.board.view)]) :=
    Station.fire_of_event? he
  have hview : s.act (.move (.monitor .request)) = some ({ s with
      station := ((s.station.taken .request).handle (.request asker .view)).1
      mail := [.replied (.view s.station.keeper.board.view)] }, []) := by
    rw [act, step, hfire]
    simp [takeNotices, takeNotice, hear, asker, stopper, hm]
  obtain ⟨t, out, hread, ht, hout⟩ := read_view (s := { s with
      station := ((s.station.taken .request).handle (.request asker .view)).1
      mail := [.replied (.view s.station.keeper.board.view)] }) hs rfl
  exact ⟨_, _, t, .cons hview (.cons hread .start), ht, Episode.tells_of_silent (by simp) rfl,
    Episode.tells_of_silent (by simp) hout⟩

/-- The run ends, and the command with it.  While the console is behind, nothing is told of the
log. -/
theorem AwaitsStart.ends (h : s.AwaitsStart n) :
    ∃ i between q after t, Chronicle s (i :: (between ++ q :: after)) t ∧
      i.before.station.keeper.board.lifecycle ≠ .idle ∧
      i.after.station.keeper.board.lifecycle = .idle ∧
      q.before.stage = .draining ∧ q.after.stage = .parting ∧ t.stage = .ended .done ∧
      ingested (i :: between) = [] ∧
      (s.follow.log.missed ≠ 0 → tells (i :: (between ++ q :: after)) = []) := by
  obtain ⟨u, hu, hsilent, hstage, hmail, hfollow, hkeeper, halive, hrequests⟩ := h.take
  have hread := act_read_epoch hstage hmail
  have hlast : { u.follow with epoch := n }.last u.station.keeper.published = true := by
    rw [hkeeper, Follow.last, Bool.and_eq_true, beq_iff_eq]
    exact ⟨rfl, h.keeper.epoch⟩
  obtain ⟨shown, hlook, hshown⟩ := look_last (s := { u with
      mail := []
      stage := .following
      follow := { u.follow with epoch := n } }) rfl (by rw [hfollow]; rfl) hlast
  obtain ⟨ps, q, f, hdrains, hq, hq', hdry, hbehind⟩ := drains (s := { u with
      mail := []
      stage := .draining
      follow := { u.follow with epoch := n }.seen u.station.keeper.published }) rfl
  obtain ⟨d, e, v, hasks, hclosing, hempty, halive', hasked, hd, he⟩ := concludes (s := { u with
      mail := []
      stage := .parting
      follow := f }) rfl halive
  obtain ⟨b, c, t, hend, hdone, hb, hc⟩ := close hclosing hempty halive'
    (by rw [hasked]; simp [hrequests])
  have hrun := Chronicle.cons hu (.cons hread (.cons hlook (hdrains.append (hasks.append hend))))
  refine ⟨⟨s, _, u, []⟩, _ :: _ :: ps, q, [d, e, b, c], t, by simpa using hrun, h.keeper.active, ?_,
    hq, hq', hdone, ?_, fun hm => ?_⟩
  · exact (congrArg (·.board.lifecycle) hkeeper).trans rfl
  · rw [ingested, List.filterMap_cons_none hsilent,
      List.filterMap_cons_none (Episode.ingested?_eq_none (by simp)),
      List.filterMap_cons_none (Episode.ingested?_eq_none (by simp))]
    exact hdry
  · -- the console is behind, so it takes nothing of the log
    have hi : (Episode.mk s (.move (.monitor .returned)) u []).tells = [] :=
      Episode.tells_of_silent (by simp) rfl
    have ha : ∀ w, (Episode.mk u (.move .read) w []).tells = [] := fun _ =>
      Episode.tells_of_silent (by simp) rfl
    have hl : ∀ v w, (Episode.mk v (.move .look) w shown).tells = [] := fun _ _ =>
      Episode.tells_of_silent (by simp) hshown
    have hrest : tells (ps ++ [q]) = [] := hbehind (by rw [hfollow]; exact hm)
    rw [tells, List.flatMap_append, List.flatMap_singleton, List.append_eq_nil_iff] at hrest
    simp only [tells, List.flatMap_cons, List.flatMap_nil, List.cons_append, List.flatMap_append,
      hi, ha, hl, hrest, hd, he, hb, hc, List.append_nil]

end Session

/-! ### A small batch that is over at once -/

/-- The start that a return answers, if the engine has accepted it. -/
def started? : Monitor.Return → Option (Nat × Nat)
  | .started c n (.ok ()) => some (c, n)
  | _ => none

theorem eq_started_of_started? {r : Monitor.Return} {c n : Nat} (h : started? r = some (c, n)) :
    r = .started c n (.ok ()) := by
  unfold started? at h
  split at h
  · cases h
    rfl
  · cases h

/-- A log line that the engine sends again and again. -/
def working : LogEvent := ⟨"a", "working", .info, none⟩

/-- In a small batch the command can wait for the start while the engine has already ended the run,
and a log line can come in at any time. -/
theorem exists_awaitsStart :
    ∃ before p rest s, Chronicle smallBatch (before ++ p :: rest) s ∧
      p.before.stage = .loading ∧ p.after.stage = .starting ∧ (ingested rest).length = 1 ∧
      tells rest = [] ∧ s.AwaitsStart 1 ∧ s.station.logs = [] ∧
      s.exchange.happen (.receive (frameOf none (.log working))) =
        some (s.exchange, [.client (.logged 1 working)]) := by
  have hplay :
      ((smallBatch.play uptoAccounts).bind fun a => (a.2.act (.move .read)).bind fun p =>
        (p.1.play (uptoStart ++ [
          incoming none (.log ⟨"a", "All tasks completed", .info, none⟩),
          .move (.monitor .log)])).map fun r => decide
          (a.2.stage = .loading ∧ p.1.stage = .starting ∧ (ingested r.1).length = 1 ∧
            (tells r.1).length = 0 ∧
            r.2.stage = .starting ∧ r.2.mail.length = 0 ∧ r.2.station.alive = true ∧
            r.2.station.requests.length = 0 ∧
            r.2.station.returns.map started? = [some (1, 1)] ∧ r.2.station.logs = [] ∧
            r.2.station.keeper.board.epoch = 1 ∧ r.2.station.keeper.board.awaiting = some 1 ∧
            r.2.station.keeper.board.held = true ∧
            r.2.station.keeper.board.lifecycle = .running ∧ r.2.station.keeper.waiters = [] ∧
            (r.2.exchange.happen (.ask r.2.next (.status 1))).map (·.2.length) = some 0 ∧
            r.2.exchange.client.link = .up 1 (.start Wire.defaultFrameLimit) ∧
            r.2.exchange.client.board.sinks = [1] ∧
            r.2.exchange.client.board.taken = [1])) = some true := by
    decide +kernel
  obtain ⟨⟨before, s₁⟩, hbefore, h⟩ := Option.bind_eq_some_iff.1 hplay
  obtain ⟨⟨s₂, out⟩, hread, h⟩ := Option.bind_eq_some_iff.1 h
  obtain ⟨⟨rest, s⟩, hrest, h⟩ := Option.map_eq_some_iff.1 h
  obtain ⟨hp, hp', hone, htells, hstage, hmail, halive, hrequests, hreturns, hlogs, hepoch,
    hawaiting, hheld, hactive, halone, hasks, hlink, hsinks, htaken⟩ := of_decide_eq_true h
  have hrun : Chronicle smallBatch (before ++ ⟨s₁, .move .read, s₂, out⟩ :: rest) s :=
    (Chronicle.of_play hbefore).append (.cons hread (.of_play hrest))
  have hkeeper : s.station.keeper.Holds 1 :=
    ⟨hrun.sound begin_runs begin_sound, hepoch, hawaiting, hheld, by rw [hactive]; nofun, halone⟩
  have hreturn : s.station.returns = [.started Session.asker 1 (.ok ())] := by
    obtain ⟨r, hr, hstarted⟩ := List.map_eq_singleton_iff.1 hreturns
    exact hr.trans (congrArg (fun w => [w]) (eq_started_of_started? hstarted))
  have hask : ∃ x, s.exchange.happen (.ask s.next (.status 1)) = some (x, []) := by
    obtain ⟨⟨x, hs⟩, hx, hnone⟩ := Option.map_eq_some_iff.1 hasks
    obtain rfl := List.length_eq_zero_iff.1 hnone
    exact ⟨x, hx⟩
  exact ⟨before, _, rest, s, hrun, hp, hp', hone, List.length_eq_zero_iff.1 htells,
    ⟨hstage, List.length_eq_zero_iff.1 hmail, hkeeper, halive,
      List.length_eq_zero_iff.1 hrequests, hreturn, hask⟩, hlogs,
    happen_of_log hlink (by decide +kernel) (by decide +kernel) hsinks htaken⟩

end Overseer.Console
