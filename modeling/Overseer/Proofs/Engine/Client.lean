import Overseer.Engine.Client
import Overseer.Proofs.Engine.Switchboard

/-!
# What a client does, event by event

`Client.Stepped` lists all that an event can do to a client, each case with what must hold for it,
and `Client.stepped_of_step` says that nothing else happens.  A `Trace` is any sequence of events
from the beginning, so a statement about every `Trace` is one about every interleaving of callers,
timers, frames and connections.

* `Client.deliver_eq` : what the switchboard hands out goes to those whom it is for, and to nobody
  else.
* `Trace.sound` : the client is in order after every trace, so each of its events is one of the
  cases of `Client.Stepped` (`Trace.stepped`).
-/

namespace Overseer.Engine

open Overseer.Batch Overseer.Monitor Overseer.Time Overseer.Wire

/-! ### What the switchboard hands out -/

/-- What a caller finds who is told of a message, or that none will come. -/
def Slot.told : Option Message → Slot
  | some m => .filled m
  | none => .hungUp

/-- What others see of a delivery. -/
def Delivery.notice? : Delivery Nat → Option Notice
  | .log sink e => some (.logged sink e)
  | _ => none

/-- A request hears what is handed out, and keeps what it hears last. -/
def Outstanding.hears (o : Outstanding) (ds : List (Delivery Nat)) : Outstanding :=
  { o with slot := ((ds.filterMap (Delivery.told o.number)).getLast?.map Slot.told).getD o.slot }

/-- What comes of a request, once its caller may take it. -/
def Outstanding.outcome? (o : Outstanding) : Option Response :=
  match o.deadline, o.slot with
  | some _, .filled m => some (o.request.interpret m)
  | some _, .hungUp => some (.error closedEarly)
  | _, _ => none

namespace Client

/-- The client whose requests have heard what is handed out. -/
def hearing (c : Client) (ds : List (Delivery Nat)) : Client :=
  { c with outstanding := c.outstanding.map (·.hears ds) }

theorem hears_cons (o : Outstanding) (d : Delivery Nat) (ds : List (Delivery Nat)) :
    o.hears (d :: ds) = (o.hears [d]).hears ds := by
  unfold Outstanding.hears
  rw [List.filterMap_cons]
  cases h : d.told o.number with
  | none => simp [h]
  | some t =>
    rw [List.getLast?_cons]
    cases (ds.filterMap (Delivery.told o.number)).getLast? <;> simp [h]

@[simp] theorem hearing_nil (c : Client) : c.hearing [] = c := by
  unfold hearing
  rw [show (fun o : Outstanding => o.hears []) = id from rfl, List.map_id]

theorem hearing_cons (c : Client) (d : Delivery Nat) (ds : List (Delivery Nat)) :
    c.hearing (d :: ds) = (c.hearing [d]).hearing ds := by
  unfold hearing
  simp only [List.map_map]
  congr 2
  funext o
  exact hears_cons o d ds

theorem hearing_log (c : Client) (sink : Nat) (e : LogEvent) : c.hearing [.log sink e] = c := by
  unfold hearing
  rw [show (fun o : Outstanding => o.hears [.log sink e]) = id from rfl, List.map_id]

theorem fill_eq_hearing (c : Client) (n : Nat) {d : Delivery Nat} {t : Option Message}
    (hd : ∀ w, d.told w = if n = w then some t else none) :
    c.fill n (Slot.told t) = c.hearing [d] := by
  unfold fill hearing
  congr 2
  funext o
  by_cases ho : o.number = n
  · simp [Outstanding.hears, hd, ho]
  · simp [Outstanding.hears, hd, ho, Ne.symm ho]

/-- **What is handed out goes to those whom it is for.** -/
theorem deliver_eq (c : Client) (ds : List (Delivery Nat)) :
    c.deliver ds = (c.hearing ds, ds.filterMap Delivery.notice?) := by
  induction ds generalizing c with
  | nil =>
    rw [hearing_nil]
    rfl
  | cons d rest ih =>
    rw [hearing_cons]
    cases d with
    | answer n m =>
      rw [deliver, ih, ← fill_eq_hearing c n (d := .answer n m) (t := some m) fun _ => rfl]
      rfl
    | hungUp n =>
      rw [deliver, ih, ← fill_eq_hearing c n (d := .hungUp n) (t := none) fun _ => rfl]
      rfl
    | log sink e =>
      rw [deliver, ih, hearing_log]
      rfl

/-! ### What an event does -/

/-- The client with one request more, which waits under its id. -/
def joined (c : Client) (caller : Nat) (r : Request) : Client :=
  { c with
    issued := c.issued + 1
    outstanding := c.outstanding ++ [(⟨c.issued + 1, caller, r, none, .empty⟩ : Outstanding)]
    board := (c.board.register (c.ids.id (c.issued + 1)) (c.issued + 1)).1 }

/-- The frame of the next request. -/
def frameOf (c : Client) (r : Request) : Nat × Envelope :=
  (c.issued + 1,
    envelopeOf c.settings.client c.moment (some (c.ids.id (c.issued + 1))) r.message)

/-- The client once frames are handed out. -/
def heard (c : Client) (es : List Envelope) : Client :=
  { c.hearing (c.board.routeAll es).2 with board := (c.board.routeAll es).1 }

/-- What the sinks are told when frames are handed out. -/
def logs (c : Client) (es : List Envelope) : List Notice :=
  (c.board.routeAll es).2.filterMap Delivery.notice?

/-- The client once its connection has ended, with the last frames handed out. -/
def cut (c : Client) (conn : Nat) (es : List Envelope) : Client :=
  { (c.heard es).hearing ((c.heard es).board.failPending).2 with
    board := { (c.heard es).board with pending := .empty, connected := false }
    queue := []
    link := .down (c.now + Backoff.first) (Backoff.next Backoff.first c.limit) (some conn) }

/-- The client when nobody needs it any more. -/
def gone (c : Client) : Client :=
  { c with
    queue := []
    behind := []
    board := { c.board with connected := false }
    link := .stopped }

/-- What a client says when nobody needs it any more. -/
def farewell (c : Client) : List Notice :=
  match c.link with
  | .down _ _ held => held.toList.map .dropped
  | .up conn _ => [.dropped conn]
  | .stopped => []

/-- All that an event can do. -/
inductive Stepped (c : Client) : Event → Client → List Notice → Prop where
  /-- A request is made. -/
  | asked {w r} (hh : c.held = true) (hc : c.board.connected = true) :
      Stepped c (.ask w r) ((c.joined w r).submit (c.frameOf r)) []
  /-- There is no connection. -/
  | denied {w r} (hh : c.held = true) (hc : c.board.connected = false) :
      Stepped c (.ask w r) c [.answered w (.error (notConnected c.settings.socket))]
  | watched {w patience} (hh : c.held = true) :
      Stepped c (.watch w patience) (c.watch w patience) []
  | subscribed (hh : c.held = true) :
      Stepped c .subscribe { c with board := c.board.addSink.1 } []
  | unsubscribed {sink} :
      Stepped c (.unsubscribe sink) { c with board := c.board.removeSink sink } []
  | left {sink} : Stepped c (.leave sink) { c with board := (c.board.dropTaker sink).1 } []
  | released : Stepped c .release { c with held := false } []
  | passed {ms} : Stepped c (.pass ms) { c with now := c.now + ms } []
  /-- A frame gets into the queue for which there was no room before. -/
  | movedUp {frame rest} (hb : c.behind = frame :: rest) (hq : c.queue.length < queueCapacity) :
      Stepped c .moveUp ({ c with behind := rest }.enqueue frame) []
  | collected {n o r} (ho : c.outstanding? n = some o) (hr : o.outcome? = some r) :
      Stepped c (.collect n) (c.settled n) [.answered o.caller r]
  | expired {n o d} (ho : c.outstanding? n = some o) (hd : o.deadline = some d)
      (hs : o.slot = .empty) (hle : d ≤ c.now) :
      Stepped c (.expire n) { c.settled n with board := (c.board.forget (c.ids.id n)).1 }
        [.answered o.caller (.error (.timeout (.ofMillis c.settings.patience)))]
  | noticed {caller w} (hw : c.watcher? caller = some w) (hc : c.board.connected = true) :
      Stepped c (.notice caller) (c.unwatch caller) [.watched caller (.ok ())]
  | gaveUp {caller w} (hw : c.watcher? caller = some w) (hc : c.board.connected = false)
      (hle : w.deadline ≤ c.now) :
      Stepped c (.giveUp caller) (c.unwatch caller)
        [.watched caller (.error (.timeout c.settings.socket (.ofMillis w.patience)))]
  /-- Nobody is found. -/
  | refused {retry pause held} (hl : c.link = .down retry pause held) (hn : retry ≤ c.now) :
      Stepped c (.dial .refused) (c.rest pause none).1
        (held.toList.map .dropped ++ [.resting pause])
  /-- A connection is made, and no introduction can be written. -/
  | ungreeted {retry pause held d conn} (hl : c.link = .down retry pause held)
      (hn : retry ≤ c.now)
      (hd : d = .broken conn ∨
        d = .accepted conn ∧ c.writable (greeting c.settings.client c.moment) = false) :
      Stepped c (.dial d) (c.rest Backoff.first (some conn)).1
        (held.toList.map .dropped ++ [.reached conn, .resting Backoff.first])
  /-- A connection is made. -/
  | connected {retry pause held conn} (hl : c.link = .down retry pause held)
      (hn : retry ≤ c.now) (hw : c.writable (greeting c.settings.client c.moment) = true) :
      Stepped c (.dial (.accepted conn))
        { c with
          queue := []
          board := { c.board with connected := true }
          link := .up conn (.start c.settings.frameLimit) }
        (held.toList.map .dropped ++
          [.reached conn, .wrote conn (greeting c.settings.client c.moment)])
  | received {conn feed chunk} (hl : c.link = .up conn feed) :
      Stepped c (.receive chunk)
        { c.heard (frames (feed.push Envelope.read chunk).2) with
          link := .up conn (feed.push Envelope.read chunk).1 }
        (c.logs (frames (feed.push Envelope.read chunk).2))
  | lost {conn feed} (hl : c.link = .up conn feed) :
      Stepped c .lose (c.cut conn (frames (feed.finish Envelope.read).2))
        (c.logs (frames (feed.finish Envelope.read).2) ++ [.resting Backoff.first])
  | wrote {conn feed frame rest} (hl : c.link = .up conn feed) (hq : c.queue = frame :: rest)
      (hw : c.writable frame.2 = true) :
      Stepped c (.write true) { c with queue := rest } [.wrote conn frame.2]
  /-- A frame cannot be written, which ends the connection. -/
  | unwritten {conn feed frame rest taken} (hl : c.link = .up conn feed)
      (hq : c.queue = frame :: rest) (hw : (taken && c.writable frame.2) = false) :
      Stepped c (.write taken) (c.cut conn (frames (feed.finish Envelope.read).2))
        (c.logs (frames (feed.finish Envelope.read).2) ++ [.resting Backoff.first])
  | retired (ha : c.attended = false) (hl : c.link ≠ .stopped) :
      Stepped c .retire c.gone c.farewell

/-! ### Nothing else happens -/

variable {c c' : Client} {e : Event} {ns : List Notice}

theorem lose_eq {conn : Nat} {feed : Feed} (hl : c.link = .up conn feed) :
    c.lose = some (c.cut conn (frames (feed.finish Envelope.read).2),
      c.logs (frames (feed.finish Envelope.read).2) ++ [.resting Backoff.first]) := by
  have hsilent : ∀ s : Switchboard Nat, (s.failPending).2.filterMap Delivery.notice? = [] := by
    intro s
    rw [Switchboard.failPending, List.filterMap_map]
    exact List.filterMap_eq_nil_iff.2 fun _ _ => rfl
  unfold lose
  rw [hl]
  simp only [routed, deliver_eq, hsilent, List.append_nil]
  rfl

theorem stepped_of_ask {w : Nat} {r : Request}
    (hf : c.board.pending.get? (c.ids.id (c.issued + 1)) = none)
    (h : c.step (.ask w r) = some (c', ns)) : c.Stepped (.ask w r) c' ns := by
  obtain ⟨hh, h⟩ : c.held = true ∧ c.ask w r = (c', ns) := by simpa [step] using h
  unfold ask at h
  by_cases hc : c.board.connected = true
  · -- the id is a new one, so nobody else is told anything
    rw [if_pos hc] at h
    simp only [routed, deliver_eq, Switchboard.register, hf, Option.toList_none, List.map_nil,
      hearing_nil, List.filterMap_nil] at h
    obtain ⟨rfl, rfl⟩ := Prod.mk.inj h
    exact .asked hh hc
  · rw [if_neg hc] at h
    obtain ⟨rfl, rfl⟩ := Prod.mk.inj h
    exact .denied hh (Bool.eq_false_iff.2 hc)

theorem stepped_of_collect {n : Nat} (h : c.step (.collect n) = some (c', ns)) :
    c.Stepped (.collect n) c' ns := by
  change c.collect n = some (c', ns) at h
  unfold collect at h
  split at h
  · next w r d m ho =>
    obtain ⟨rfl, rfl⟩ := Prod.mk.inj (Option.some.inj h)
    exact .collected ho rfl
  · next w r d ho =>
    obtain ⟨rfl, rfl⟩ := Prod.mk.inj (Option.some.inj h)
    exact .collected ho rfl
  · cases h

theorem stepped_of_expire {n : Nat} (h : c.step (.expire n) = some (c', ns)) :
    c.Stepped (.expire n) c' ns := by
  change c.expire n = some (c', ns) at h
  unfold expire at h
  split at h
  · next w r d ho =>
    split at h
    · next hle =>
      obtain ⟨rfl, rfl⟩ := Prod.mk.inj (Option.some.inj h)
      exact .expired ho rfl rfl hle
    · cases h
  · cases h

theorem stepped_of_notice {w : Nat} (h : c.step (.notice w) = some (c', ns)) :
    c.Stepped (.notice w) c' ns := by
  change c.notice w = some (c', ns) at h
  unfold notice at h
  split at h
  · next x hw =>
    split at h
    · next hc =>
      obtain ⟨rfl, rfl⟩ := Prod.mk.inj (Option.some.inj h)
      exact .noticed hw hc
    · cases h
  · cases h

theorem stepped_of_giveUp {w : Nat} (h : c.step (.giveUp w) = some (c', ns)) :
    c.Stepped (.giveUp w) c' ns := by
  change c.giveUp w = some (c', ns) at h
  unfold giveUp at h
  split at h
  · next x hw =>
    split at h
    · next hc =>
      obtain ⟨rfl, rfl⟩ := Prod.mk.inj (Option.some.inj h)
      exact .gaveUp hw hc.1 hc.2
    · cases h
  · cases h

theorem stepped_of_dial {d : Dial} (h : c.step (.dial d) = some (c', ns)) :
    c.Stepped (.dial d) c' ns := by
  change c.dial d = some (c', ns) at h
  unfold dial at h
  split at h
  · next retry pause held hl =>
    split at h
    · cases h
    · next hn =>
      have hn : retry ≤ c.now := Nat.not_lt.1 hn
      cases d with
      | refused =>
        obtain ⟨rfl, rfl⟩ := Prod.mk.inj (Option.some.inj h)
        exact .refused hl hn
      | broken conn =>
        obtain ⟨rfl, rfl⟩ := Prod.mk.inj (Option.some.inj h)
        exact .ungreeted hl hn (.inl rfl)
      | accepted conn =>
        cases hw : c.writable (greeting c.settings.client c.moment) with
        | true =>
          simp only [hw, if_true] at h
          obtain ⟨rfl, rfl⟩ := Prod.mk.inj (Option.some.inj h)
          exact .connected hl hn hw
        | false =>
          simp only [hw] at h
          obtain ⟨rfl, rfl⟩ := Prod.mk.inj (Option.some.inj h)
          exact .ungreeted hl hn (.inr ⟨rfl, hw⟩)
  · cases h

theorem stepped_of_write {taken : Bool} (h : c.step (.write taken) = some (c', ns)) :
    c.Stepped (.write taken) c' ns := by
  change c.write taken = some (c', ns) at h
  unfold write at h
  split at h
  · next conn feed frame rest hl hq =>
    have hl' : ({ c with queue := rest } : Client).link = .up conn feed := hl
    have hw' : ({ c with queue := rest } : Client).writable frame.2 = c.writable frame.2 := rfl
    cases hw : taken && c.writable frame.2 with
    | true =>
      simp only [hw', hw, if_true] at h
      obtain ⟨rfl, rfl⟩ := Prod.mk.inj (Option.some.inj h)
      obtain ⟨rfl, hw⟩ := Bool.and_eq_true_iff.1 hw
      exact .wrote hl hq hw
    | false =>
      simp only [hw', hw, Bool.false_eq_true, if_false, lose_eq hl'] at h
      obtain ⟨rfl, rfl⟩ := Prod.mk.inj (Option.some.inj h)
      exact .unwritten hl hq hw
  · cases h

theorem stepped_of_retire (h : c.step .retire = some (c', ns)) : c.Stepped .retire c' ns := by
  change c.retire = some (c', ns) at h
  unfold retire at h
  cases ha : c.attended with
  | true => simp [ha] at h
  | false =>
    have hf := Stepped.retired (c := c) ha
    unfold farewell at hf
    rw [ha] at h
    cases hl : c.link with
    | stopped => simp [hl] at h
    | _ =>
      simp only [hl] at h hf
      obtain ⟨rfl, rfl⟩ := Prod.mk.inj (Option.some.inj h)
      exact hf nofun

/-- **An event does nothing else**, if the id of the next request is a new one. -/
theorem stepped_of_step (hf : c.board.pending.get? (c.ids.id (c.issued + 1)) = none)
    (h : c.step e = some (c', ns)) : c.Stepped e c' ns := by
  cases e with
  | ask => exact stepped_of_ask hf h
  | watch =>
    obtain ⟨hh, rfl, rfl⟩ := by simpa [step] using h
    exact .watched hh
  | subscribe =>
    obtain ⟨hh, rfl, rfl⟩ := by simpa [step] using h
    exact .subscribed hh
  | unsubscribe | leave | release | pass =>
    obtain ⟨rfl, rfl⟩ := by simpa [step] using h
    constructor
  | moveUp =>
    obtain ⟨c₁, h₁, hc⟩ := Option.map_eq_some_iff.1 h
    obtain ⟨rfl, rfl⟩ := Prod.mk.inj hc
    unfold moveUp at h₁
    split at h₁
    · next hb =>
      split at h₁
      · next hq =>
        obtain rfl := Option.some.inj h₁
        exact .movedUp hb hq
      · cases h₁
    · cases h₁
  | collect => exact stepped_of_collect h
  | expire => exact stepped_of_expire h
  | notice => exact stepped_of_notice h
  | giveUp => exact stepped_of_giveUp h
  | dial => exact stepped_of_dial h
  | receive chunk =>
    change c.receive chunk = some (c', ns) at h
    unfold receive at h
    split at h
    · next conn feed hl =>
      simp only [routed, deliver_eq] at h
      obtain ⟨rfl, rfl⟩ := Prod.mk.inj (Option.some.inj h)
      exact .received hl
    · cases h
  | lose =>
    change c.lose = some (c', ns) at h
    cases hl : c.link with
    | up conn feed =>
      rw [lose_eq hl] at h
      obtain ⟨rfl, rfl⟩ := Prod.mk.inj (Option.some.inj h)
      exact .lost hl
    | _ => simp [Client.lose, hl] at h
  | write => exact stepped_of_write h
  | retire => exact stepped_of_retire h

/-- **Each of the cases happens**, if the id of the next request is a new one. -/
theorem Stepped.step_eq (hf : c.board.pending.get? (c.ids.id (c.issued + 1)) = none)
    (hs : c.Stepped e c' ns) : c.step e = some (c', ns) := by
  cases hs with
  | asked hh hc =>
    refine (if_pos hh).trans (congrArg some ?_)
    refine (if_pos hc).trans ?_
    simp only [routed, deliver_eq, Switchboard.register, hf, Option.toList_none, List.map_nil,
      hearing_nil, List.filterMap_nil]
    rfl
  | denied hh hc => simp [step, hh, ask, hc]
  | watched hh => simp [step, hh]
  | subscribed hh => simp [step, hh]
  | unsubscribed | left | released | passed => rfl
  | movedUp hb hq => simp [step, moveUp, hb, hq]
  | @collected n o r ho hr =>
    obtain ⟨m, w, q, d, slot⟩ := o
    change c.collect n = _
    unfold collect
    cases d <;> cases slot <;> simp_all [Outstanding.outcome?]
  | @expired n o d ho hd hx hle =>
    obtain ⟨m, w, q, d, slot⟩ := o
    change c.expire n = _
    unfold expire
    subst hd hx
    rw [ho]
    exact if_pos hle
  | noticed hw hc => simp [step, notice, hw, hc]
  | gaveUp hw hc hle => simp [step, giveUp, hw, hc, hle]
  | refused hl hn => simp [step, dial, hl, Nat.not_lt.2 hn, rest]
  | ungreeted hl hn hd =>
    rcases hd with rfl | ⟨rfl, hw⟩
    · simp [step, dial, hl, Nat.not_lt.2 hn, rest]
    · simp [step, dial, hl, Nat.not_lt.2 hn, rest, hw]
  | connected hl hn hw => simp [step, dial, hl, Nat.not_lt.2 hn, hw]
  | received hl =>
    simp only [step, receive, hl, routed, deliver_eq]
    rfl
  | lost hl => exact lose_eq hl
  | wrote hl hq hw =>
    simp only [step, write, hl, hq]
    exact if_pos hw
  | @unwritten conn feed frame rest taken hl hq hw =>
    have hlose : ({ c with queue := rest } : Client).lose = _ :=
      lose_eq (c := { c with queue := rest }) hl
    change c.write taken = _
    unfold write
    split
    · next hl' hq' =>
      obtain ⟨rfl, rfl⟩ := Link.up.inj (hl'.symm.trans hl)
      obtain ⟨rfl, rfl⟩ := List.cons.inj (hq'.symm.trans hq)
      exact (if_neg (ne_true_of_eq_false hw)).trans hlose
    · next hno => exact absurd hq (hno _ _ _ _ hl)
  | retired ha hl =>
    simp only [step, retire, ha, farewell]
    cases h : c.link <;> simp_all [gone]

/-! ### A client in order -/

/-- A client is in order. -/
structure Sound (c : Client) : Prop where
  /-- Every request waits under its own id. -/
  keyed : c.board.Keyed c.ids.id
  /-- It was made. -/
  made : ∀ id n, c.board.pending.get? id = some n → 1 ≤ n ∧ n ≤ c.issued
  /-- The switchboard knows about the connection. -/
  linked : c.board.connected = true ↔ ∃ conn feed, c.link = .up conn feed

theorem sound_initial (set : Settings) (origin : Moment) (ids : IdSource) :
    (initial set origin ids).Sound where
  keyed _ _ h := nomatch h
  made _ _ h := nomatch h
  linked := by simp [initial, Switchboard.initial]

theorem Sound.fresh (h : c.Sound) : c.board.pending.get? (c.ids.id (c.issued + 1)) = none := by
  rw [Option.eq_none_iff_forall_not_mem]
  intro n hn
  have hle := (h.made _ n hn).2
  have heq := c.ids.distinct (h.keyed _ n hn)
  omega

@[simp] theorem submit_board (c : Client) (f : Nat × Envelope) : (c.submit f).board = c.board := by
  unfold submit
  split <;> rfl

@[simp] theorem submit_issued (c : Client) (f : Nat × Envelope) :
    (c.submit f).issued = c.issued := by
  unfold submit
  split <;> rfl

@[simp] theorem submit_link (c : Client) (f : Nat × Envelope) : (c.submit f).link = c.link := by
  unfold submit
  split <;> rfl

@[simp] theorem submit_settings (c : Client) (f : Nat × Envelope) :
    (c.submit f).settings = c.settings := by
  unfold submit
  split <;> rfl

@[simp] theorem submit_ids (c : Client) (f : Nat × Envelope) : (c.submit f).ids = c.ids := by
  unfold submit
  split <;> rfl

theorem Stepped.settings (hs : c.Stepped e c' ns) : c'.settings = c.settings := by
  cases hs with
  | asked => exact submit_settings ..
  | _ => rfl

theorem Stepped.ids (hs : c.Stepped e c' ns) : c'.ids = c.ids := by
  cases hs with
  | asked => exact submit_ids ..
  | _ => rfl

/-- Whoever waits after an event waited before it, or asks in it. -/
theorem Stepped.get?_pending (hs : c.Stepped e c' ns) {id : String} {n : Nat}
    (hn : c'.board.pending.get? id = some n) :
    c.board.pending.get? id = some n ∨
      id = c.ids.id (c.issued + 1) ∧ n = c.issued + 1 ∧ c'.issued = c.issued + 1 := by
  cases hs with
  | asked =>
    rw [submit_board] at hn
    have hn : (c.board.pending.insert (c.ids.id (c.issued + 1)) (c.issued + 1)).get? id =
      some n := hn
    rw [Table.get?_insert] at hn
    split at hn
    · next heq => exact .inr ⟨heq.symm, (Option.some.inj hn).symm, submit_issued ..⟩
    · exact .inl hn
  | expired =>
    have hn : (c.board.pending.erase _).get? id = some n := hn
    rw [Table.get?_erase] at hn
    split at hn
    · cases hn
    · exact .inl hn
  | received =>
    have hn : (c.board.routeAll _).1.pending.get? id = some n := hn
    rw [Switchboard.get?_routeAll] at hn
    split at hn
    · exact .inl hn
    · cases hn
  | lost | unwritten => cases hn
  | _ => exact .inl hn

theorem Stepped.issued_le (hs : c.Stepped e c' ns) : c.issued ≤ c'.issued := by
  cases hs with
  | asked =>
    rw [submit_issued]
    exact Nat.le_succ _
  | _ => exact Nat.le_refl _

theorem Stepped.linked (hs : c.Stepped e c' ns)
    (h : c.board.connected = true ↔ ∃ conn feed, c.link = .up conn feed) :
    c'.board.connected = true ↔ ∃ conn feed, c'.link = .up conn feed := by
  cases hs with
  | asked =>
    rw [submit_board, submit_link]
    exact h
  | refused hl | ungreeted hl =>
    rw [hl] at h
    simpa [rest] using h
  | connected => exact iff_of_true rfl ⟨_, _, rfl⟩
  | received hl =>
    refine iff_of_true ?_ ⟨_, _, rfl⟩
    exact (Switchboard.connected_routeAll ..).trans (h.2 ⟨_, _, hl⟩)
  | lost | unwritten => simp [cut]
  | retired => simp [gone]
  | _ => exact h

/-- **Every event leaves the client in order.** -/
theorem Stepped.sound (hs : c.Stepped e c' ns) (h : c.Sound) : c'.Sound where
  keyed id n hn := by
    rw [hs.ids]
    rcases hs.get?_pending hn with hold | ⟨rfl, rfl, -⟩
    · exact h.keyed id n hold
    · rfl
  made id n hn := by
    rcases hs.get?_pending hn with hold | ⟨-, rfl, hi⟩
    · exact ⟨(h.made id n hold).1, Nat.le_trans (h.made id n hold).2 hs.issued_le⟩
    · exact ⟨Nat.le_add_left .., Nat.le_of_eq hi.symm⟩
  linked := hs.linked h.linked

end Client

/-! ### Traces -/

/-- An event that has happened, with the client before and after it and what others saw of it. -/
structure Occurrence where
  before : Client
  event : Event
  after : Client
  notices : List Notice

/-- The events from the beginning to a client, one after the other. -/
inductive Trace (set : Settings) (origin : Moment) (ids : IdSource) :
    List Occurrence → Client → Prop where
  | start : Trace set origin ids [] (.initial set origin ids)
  | next {os c e c' ns} (h : Trace set origin ids os c) (hs : c.step e = some (c', ns)) :
      Trace set origin ids (os ++ [⟨c, e, c', ns⟩]) c'

namespace Trace

variable {set : Settings} {origin : Moment} {ids : IdSource} {os before after : List Occurrence}
  {c : Client} {o : Occurrence}

/-- **The client is in order after every trace**, with the settings of the beginning. -/
theorem sound (h : Trace set origin ids os c) : c.Sound ∧ c.settings = set := by
  induction h with
  | start => exact ⟨Client.sound_initial set origin ids, rfl⟩
  | next _ hs ih =>
    have hst := Client.stepped_of_step ih.1.fresh hs
    exact ⟨hst.sound ih.1, hst.settings.trans ih.2⟩

theorem ids_eq (h : Trace set origin ids os c) : c.ids = ids := by
  induction h with
  | start => rfl
  | next h hs ih => exact (Client.stepped_of_step h.sound.1.fresh hs).ids.trans ih

/-- What happens before an event is a trace. -/
theorem upTo (h : Trace set origin ids (before ++ o :: after) c) :
    Trace set origin ids before o.before ∧ o.before.step o.event = some (o.after, o.notices) := by
  generalize hos : before ++ o :: after = os at h
  induction h generalizing after with
  | start => simp at hos
  | @next os _ _ _ _ h hs ih =>
    -- the last event is `o` itself, or one behind it
    rcases List.eq_nil_or_concat after with rfl | ⟨rest, p, rfl⟩
    · obtain ⟨rfl, hp⟩ := List.append_inj' hos rfl
      obtain rfl := List.singleton_inj.1 hp
      exact ⟨h, hs⟩
    · rw [List.concat_eq_append, ← List.cons_append, ← List.append_assoc] at hos
      exact ih (List.append_inj' hos rfl).1

theorem stepped (h : Trace set origin ids (before ++ o :: after) c) :
    o.before.Stepped o.event o.after o.notices :=
  Client.stepped_of_step h.upTo.1.sound.1.fresh h.upTo.2

/-- Lets events happen one after the other, from the beginning: none if one of them cannot. -/
def play (set : Settings) (origin : Moment) (ids : IdSource) (es : List Event) :
    Option (List Occurrence × Client) :=
  es.foldlM (fun at_ e =>
    (at_.2.step e).map fun out => (at_.1 ++ [⟨at_.2, e, out.1, out.2⟩], out.1))
    ([], .initial set origin ids)

/-- Events that can happen one after the other make a trace. -/
theorem of_play {es : List Event} (h : play set origin ids es = some (os, c)) :
    Trace set origin ids os c := by
  -- the fold goes on from any trace, so the induction is over what is left to play
  suffices hall : ∀ (es : List Event) (qs : List Occurrence) (d : Client),
      Trace set origin ids qs d →
      es.foldlM (fun at_ e =>
        (at_.2.step e).map fun out => (at_.1 ++ [⟨at_.2, e, out.1, out.2⟩], out.1))
        (qs, d) = some (os, c) → Trace set origin ids os c from
    hall es [] _ .start h
  intro es
  induction es with
  | nil =>
    intro qs d hd hq
    obtain ⟨rfl, rfl⟩ := by simpa using hq
    exact hd
  | cons e rest ih =>
    intro qs d hd hq
    rw [List.foldlM_cons] at hq
    cases hs : d.step e with
    | none => simp [hs] at hq
    | some out =>
      refine ih _ _ (.next hd hs) ?_
      simpa [hs] using hq

end Trace

end Overseer.Engine
