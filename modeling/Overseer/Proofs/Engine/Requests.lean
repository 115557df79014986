import Overseer.Proofs.Engine.Client

/-!
# What happens to a request

A request is ruled upon by the first of three things: a frame answers it, the connection drops, or
its time is up (`ruling?`).  Its caller is told when the ruling is taken, which completes it.

* `Occurrence.Regards` : all that an event can do about a request that was made before.
* `Occurrence.regards` : nothing else happens to it.  In particular, a frame that does not
  answer the request leaves it where it is.
-/

namespace Overseer.Engine

open Overseer.Monitor Overseer.Time Overseer.Wire

/-- The answer to a caller. -/
def Notice.answer? : Notice → Option (Nat × Response)
  | .answered w r => some (w, r)
  | _ => none

/-- What decides about a request. -/
inductive Ruling where
  /-- A frame answers it. -/
  | answered (m : Message)
  /-- The connection drops. -/
  | dropped
  /-- Its time is up. -/
  | late

namespace Ruling

/-- What the caller finds. Nobody finds that the time is up: whoever waits so long looks no more. -/
def slot : Ruling → Slot
  | .answered m => .filled m
  | .dropped => .hungUp
  | .late => .empty

/-- What the caller is told. -/
def response (set : Settings) (q : Request) : Ruling → Response
  | .answered m => q.interpret m
  | .dropped => .error closedEarly
  | .late => .error (.timeout (.ofMillis set.patience))

theorem slot_ne_empty {r : Ruling} (hl : r ≠ .late) : r.slot ≠ .empty := by
  cases r with
  | late => exact absurd rfl hl
  | answered | dropped => exact nofun

end Ruling

namespace Outstanding

variable {n w : Nat} {q : Request} {d : Option Nat}

theorem outcome?_of_empty : (Outstanding.mk n w q d .empty).outcome? = none := by
  cases d <;> rfl

theorem outcome?_of_slot {r : Ruling} (set : Settings) (hl : r ≠ .late) :
    (Outstanding.mk n w q d r.slot).outcome? = d.map fun _ => r.response set q := by
  cases r with
  | late => exact absurd rfl hl
  | answered | dropped => cases d <;> rfl

end Outstanding

namespace Occurrence

/-- Whether the connection drops. -/
def drops (o : Occurrence) : Bool :=
  match o.before.link, o.after.link with
  | .up .., .down .. => true
  | _, _ => false

/-- The frames that are handed out. What came without an end of line is one when the connection
drops. -/
def routed (o : Occurrence) : List Envelope :=
  match o.event, o.before.link with
  | .receive chunk, .up _ feed => frames (feed.push Envelope.read chunk).2
  | _, .up _ feed => if o.drops then frames (feed.finish Envelope.read).2 else []
  | _, _ => []

/-- The request whose time is up. -/
def late? (o : Occurrence) : Option Nat :=
  match o.event with
  | .expire n => some n
  | _ => none

/-- What is ruled about request `n`, in order, if it was made before. -/
def rulings (n : Nat) (o : Occurrence) : List Ruling :=
  if n ≤ o.before.issued then
    (o.routed.filterMap (·.answer? (o.before.ids.id n))).map .answered ++
      (if o.drops then [.dropped] else []) ++ (if o.late? = some n then [.late] else [])
  else []

/-- The request that is made, with its number and its caller. -/
def ask? (o : Occurrence) : Option (Nat × Nat × Request) :=
  match o.event with
  | .ask w q => if o.before.board.connected then some (o.before.issued + 1, w, q) else none
  | _ => none

/-- The request whose frame gets into the queue. -/
def queues? (o : Occurrence) : Option Nat :=
  match o.event with
  | .ask .. =>
    if o.before.board.connected ∧ o.before.behind = [] ∧ o.before.queue.length < queueCapacity then
      some (o.before.issued + 1)
    else none
  | .moveUp => o.before.behind.head?.map (·.1)
  | _ => none

/-- Who is told what when request `n` is completed. -/
def completions (n : Nat) (o : Occurrence) : List (Nat × Response) :=
  match o.event with
  | .collect m | .expire m => if m = n then o.notices.filterMap Notice.answer? else []
  | _ => []

end Occurrence

/-- What was ruled first about request `n`. -/
def ruling? (n : Nat) (os : List Occurrence) : Option Ruling := (os.flatMap (·.rulings n)).head?

/-- The requests that were made, each with its number and its caller. -/
def asks (os : List Occurrence) : List (Nat × Nat × Request) := os.filterMap (·.ask?)

/-- Who was told what when request `n` was completed. -/
def completions (n : Nat) (os : List Occurrence) : List (Nat × Response) :=
  os.flatMap (·.completions n)

/-! ### One request more or less -/

namespace Client

variable {c : Client} {n : Nat}

theorem number_of_outstanding? {x : Outstanding} (h : c.outstanding? n = some x) :
    x.number = n := by
  unfold outstanding? at h
  simpa using List.find?_some h

/-- A change that keeps the numbers changes what is found, and nothing about which one is found. -/
theorem find?_map_number (l : List Outstanding) {f : Outstanding → Outstanding}
    (hf : ∀ x, (f x).number = x.number) (n : Nat) :
    (l.map f).find? (·.number == n) = (l.find? (·.number == n)).map f := by
  rw [List.find?_map]
  congr 2
  funext x
  exact congrArg (· == n) (hf x)

theorem outstanding?_hearing (c : Client) (ds : List (Delivery Nat)) (n : Nat) :
    (c.hearing ds).outstanding? n = (c.outstanding? n).map (·.hears ds) :=
  find?_map_number c.outstanding (f := (·.hears ds)) (fun _ => rfl) n

theorem outstanding?_enqueue (c : Client) (frame : Nat × Envelope) (n : Nat) :
    (c.enqueue frame).outstanding? n = (c.outstanding? n).map fun x =>
      if frame.1 = n then { x with deadline := some (c.now + c.settings.patience) } else x := by
  have hmap : (c.enqueue frame).outstanding? n = (c.outstanding? n).map fun x =>
      if x.number = frame.1 then
        { x with deadline := some (c.now + c.settings.patience) } else x := by
    refine find?_map_number c.outstanding (fun x => ?_) n
    split <;> rfl
  rw [hmap]
  refine Option.map_congr fun x hx => ?_
  rw [number_of_outstanding? hx]
  by_cases h : n = frame.1 <;> simp [h, eq_comm]

theorem outstanding?_settled (c : Client) (m n : Nat) :
    (c.settled m).outstanding? n = if m = n then none else c.outstanding? n := by
  unfold settled outstanding?
  rw [List.find?_filter]
  split
  · next h =>
    subst h
    refine List.find?_eq_none.2 fun x _ => ?_
    simp
  · next h =>
    congr 1
    funext x
    by_cases hx : x.number = n
    · simp [hx, Ne.symm h]
    · simp [hx]

theorem outstanding?_joined (c : Client) (w : Nat) (q : Request) (n : Nat) :
    (c.joined w q).outstanding? n = (c.outstanding? n).or
      (if c.issued + 1 = n then some ⟨c.issued + 1, w, q, none, .empty⟩ else none) := by
  unfold joined outstanding?
  rw [List.find?_append, List.find?_singleton]
  simp [beq_iff_eq]

theorem outstanding?_submit (c : Client) (frame : Nat × Envelope) (n : Nat) :
    (c.submit frame).outstanding? n = (c.outstanding? n).map fun x =>
      if (c.behind = [] ∧ c.queue.length < queueCapacity) ∧ frame.1 = n then
        { x with deadline := some (c.now + c.settings.patience) } else x := by
  unfold submit
  simp only [List.isEmpty_iff]
  split
  · next h =>
    rw [outstanding?_enqueue]
    simp [h]
  · next h =>
    simp only [h, false_and, if_false, Option.map_id']
    rfl

theorem outstanding?_of_unattended (ha : c.attended = false) : c.outstanding? n = none := by
  simp only [attended, Bool.or_eq_false_iff] at ha
  have hnone : c.outstanding = [] := by simpa using ha.1.2
  rw [outstanding?, hnone]
  rfl

/-- Whoever waits hears the first frame that answers, and nobody else hears anything. -/
theorem hears_routeAll (h : c.board.Keyed c.ids.id) (es : List Envelope) (x : Outstanding) :
    x.hears (c.board.routeAll es).2 =
      if c.board.pending.get? (c.ids.id x.number) = some x.number then
        { x with slot := (((es.filterMap (·.answer? (c.ids.id x.number))).head?.map
          Slot.filled)).getD x.slot }
      else x := by
  unfold Outstanding.hears
  rw [h.told_routeAll]
  split
  · cases (es.filterMap (·.answer? (c.ids.id x.number))).head? <;> rfl
  · rfl

theorem outstanding?_heard (h : c.board.Keyed c.ids.id) (es : List Envelope) (n : Nat) :
    (c.heard es).outstanding? n = (c.outstanding? n).map fun x =>
      if c.board.pending.get? (c.ids.id n) = some n then
        { x with slot := (((es.filterMap (·.answer? (c.ids.id n))).head?.map
          Slot.filled)).getD x.slot }
      else x := by
  refine (outstanding?_hearing c (c.board.routeAll es).2 n).trans (Option.map_congr fun x hx => ?_)
  obtain rfl := number_of_outstanding? hx
  exact hears_routeAll h es x

theorem hears_failPending {s : Switchboard Nat} (h : s.Keyed c.ids.id) (x : Outstanding) :
    x.hears (s.failPending).2 =
      if s.pending.get? (c.ids.id x.number) = some x.number then { x with slot := .hungUp }
      else x := by
  unfold Outstanding.hears
  rw [h.told_failPending]
  split <;> rfl

/-- Whoever waits when the connection drops hears the first of the last frames that answers, or that
no answer will come. -/
theorem outstanding?_cut (h : c.board.Keyed c.ids.id) (conn : Nat) (es : List Envelope) (n : Nat) :
    (c.cut conn es).outstanding? n = (c.outstanding? n).map fun x =>
      if c.board.pending.get? (c.ids.id n) = some n then
        { x with slot := (((es.filterMap (·.answer? (c.ids.id n))).head?.map
          Slot.filled)).getD .hungUp }
      else x := by
  have hcut : (c.cut conn es).outstanding? n =
      ((c.hearing (c.board.routeAll es).2).hearing
        ((c.board.routeAll es).1.failPending).2).outstanding? n := rfl
  rw [hcut, outstanding?_hearing, outstanding?_hearing, Option.map_map]
  refine Option.map_congr fun x hx => ?_
  obtain rfl := number_of_outstanding? hx
  change (x.hears _).hears _ = _
  rw [hears_failPending (h.routeAll es), hears_routeAll h, Switchboard.get?_routeAll]
  by_cases hp : c.board.pending.get? (c.ids.id x.number) = some x.number
  · cases hl : es.filterMap (·.answer? (c.ids.id x.number)) <;> simp [hp, hl]
  · simp [hp]

end Client

/-! ### What an event does about a request -/

namespace Occurrence

/-- All that can happen to request `n`, which was made before. -/
inductive Regards (o : Occurrence) (n : Nat) : Prop where
  /-- Nothing is ruled. Its frame may get into the queue. -/
  | stays (hr : o.rulings n = [])
      (hp : o.after.board.pending.get? (o.before.ids.id n) =
        o.before.board.pending.get? (o.before.ids.id n))
      (ho : o.after.outstanding? n = (o.before.outstanding? n).map fun x =>
        if o.queues? = some n then
          { x with deadline := some (o.before.now + o.before.settings.patience) } else x)
      (hc : o.completions n = [])
  /-- A frame answers it, or the connection drops. Its caller finds that if nothing was ruled
  before. -/
  | ruled {r rest} (hr : o.rulings n = r :: rest) (hl : r ≠ .late)
      (hp : o.after.board.pending.get? (o.before.ids.id n) = none)
      (ho : o.after.outstanding? n = (o.before.outstanding? n).map fun x =>
        if o.before.board.pending.get? (o.before.ids.id n) = some n then { x with slot := r.slot }
        else x)
      (hq : o.queues? = none) (hc : o.completions n = [])
  /-- Its caller takes what was ruled. -/
  | collected {x resp} (ho : o.before.outstanding? n = some x) (hx : x.outcome? = some resp)
      (hr : o.rulings n = [])
      (hp : o.after.board.pending.get? (o.before.ids.id n) =
        o.before.board.pending.get? (o.before.ids.id n))
      (ho' : o.after.outstanding? n = none) (hq : o.queues? = none)
      (hc : o.completions n = [(x.caller, resp)])
  /-- Its time is up. -/
  | expired {x d} (ho : o.before.outstanding? n = some x) (hs : x.slot = .empty)
      (hd : x.deadline = some d) (hle : d ≤ o.before.now) (hr : o.rulings n = [.late])
      (hp : o.after.board.pending.get? (o.before.ids.id n) = none)
      (ho' : o.after.outstanding? n = none) (hq : o.queues? = none)
      (hc : o.completions n = [(x.caller, Ruling.late.response o.before.settings x.request)])

variable {o : Occurrence} {n : Nat}

theorem drops_of_link_eq (h : o.after.link = o.before.link) : o.drops = false := by
  unfold drops
  rw [h]
  cases o.before.link <;> rfl

theorem drops_of_down {retry pause : Nat} {held : Option Nat}
    (h : o.before.link = .down retry pause held) : o.drops = false := by
  unfold drops
  rw [h]

theorem drops_of_stopped (h : o.after.link = .stopped) : o.drops = false := by
  unfold drops
  rw [h]
  cases o.before.link <;> rfl

theorem routed_eq_nil (hd : o.drops = false) (hr : ∀ chunk, o.event ≠ .receive chunk) :
    o.routed = [] := by
  unfold routed
  rw [hd]
  split
  · next hc _ => exact absurd hc (hr _)
  · rfl
  · rfl

theorem rulings_eq_nil (hd : o.drops = false) (hr : ∀ chunk, o.event ≠ .receive chunk)
    (hl : o.late? ≠ some n) : o.rulings n = [] := by
  unfold rulings
  rw [routed_eq_nil hd hr, hd, if_neg hl]
  split <;> rfl

theorem rulings_of_late (hd : o.drops = false) (hr : ∀ chunk, o.event ≠ .receive chunk)
    (hl : o.late? = some n) (hn : n ≤ o.before.issued) : o.rulings n = [.late] := by
  unfold rulings
  rw [routed_eq_nil hd hr, hd, if_pos hl, if_pos hn]
  rfl

theorem Regards.of_quiet (hd : o.drops = false) (hr : ∀ chunk, o.event ≠ .receive chunk)
    (hl : o.late? ≠ some n) (hq : o.queues? ≠ some n)
    (hp : o.after.board.pending.get? (o.before.ids.id n) =
      o.before.board.pending.get? (o.before.ids.id n))
    (ho : o.after.outstanding? n = o.before.outstanding? n) (hc : o.completions n = []) :
    o.Regards n := by
  refine .stays (rulings_eq_nil hd hr hl) hp ?_ hc
  simp [ho, hq]

/-- When the connection drops, the last frames are handed out before that is ruled. -/
theorem rulings_of_cut (hn : n ≤ o.before.issued) {conn : Nat} {feed : Feed}
    (hl : o.before.link = .up conn feed)
    (ha : o.after = o.before.cut conn (frames (feed.finish Envelope.read).2))
    (hr : ∀ chunk, o.event ≠ .receive chunk) (hlate : o.late? = none) :
    o.rulings n = ((frames (feed.finish Envelope.read).2).filterMap
      (·.answer? (o.before.ids.id n))).map .answered ++ [.dropped] := by
  have hd : o.drops = true := by
    unfold drops
    rw [hl, ha]
    rfl
  have hrouted : o.routed = frames (feed.finish Envelope.read).2 := by
    unfold routed
    rw [hl, hd]
    cases he : o.event with
    | receive chunk => exact absurd he (hr chunk)
    | _ => rfl
  unfold rulings
  rw [if_pos hn, hrouted, hd, hlate]
  simp

theorem Regards.of_cut (h : o.before.Sound) (hn : n ≤ o.before.issued) {conn : Nat} {feed : Feed}
    (hl : o.before.link = .up conn feed)
    (ha : o.after = o.before.cut conn (frames (feed.finish Envelope.read).2))
    (hr : ∀ chunk, o.event ≠ .receive chunk) (hlate : o.late? = none) (hq : o.queues? = none)
    (hc : o.completions n = []) : o.Regards n := by
  have hrulings := rulings_of_cut hn hl ha hr hlate
  have hout := Client.outstanding?_cut h.keyed conn (frames (feed.finish Envelope.read).2) n
  rw [← ha] at hout
  -- the first ruling is an answer, if there is one
  cases hall : (frames (feed.finish Envelope.read).2).filterMap (·.answer? (o.before.ids.id n)) with
  | nil =>
    rw [hall] at hrulings hout
    exact .ruled hrulings nofun (by rw [ha]; rfl) hout hq hc
  | cons m rest =>
    rw [hall] at hrulings hout
    exact .ruled hrulings nofun (by rw [ha]; rfl) hout hq hc

theorem Regards.of_receive (h : o.before.Sound) (hn : n ≤ o.before.issued) {conn : Nat}
    {feed feed' : Feed} {chunk : List UInt8} (he : o.event = .receive chunk)
    (hl : o.before.link = .up conn feed)
    (ha : o.after = { o.before.heard (frames (feed.push Envelope.read chunk).2) with
      link := .up conn feed' }) : o.Regards n := by
  have hd : o.drops = false := by
    unfold drops
    rw [hl, ha]
  have hrulings : o.rulings n = ((frames (feed.push Envelope.read chunk).2).filterMap
      (·.answer? (o.before.ids.id n))).map .answered := by
    unfold rulings routed late?
    rw [if_pos hn, hd, he, hl]
    simp
  have hget := Switchboard.get?_routeAll o.before.board
    (frames (feed.push Envelope.read chunk).2) (o.before.ids.id n)
  have hout := Client.outstanding?_heard h.keyed (frames (feed.push Envelope.read chunk).2) n
  have hq : o.queues? = none := by
    unfold queues?
    rw [he]
  have hc : o.completions n = [] := by
    unfold completions
    rw [he]
  cases hall : (frames (feed.push Envelope.read chunk).2).filterMap
      (·.answer? (o.before.ids.id n)) with
  | nil =>
    rw [hall] at hrulings hget hout
    refine .stays hrulings (by rw [ha]; exact hget) ?_ hc
    rw [ha, hq]
    refine hout.trans (Option.map_congr fun x _ => ?_)
    simp
  | cons m rest =>
    rw [hall] at hrulings hget hout
    exact .ruled hrulings nofun (by rw [ha]; exact hget) (by rw [ha]; exact hout) hq hc

/-- **Nothing else happens to a request.** -/
theorem regards (hs : o.before.Stepped o.event o.after o.notices) (h : o.before.Sound)
    (hn : n ≤ o.before.issued) : o.Regards n := by
  obtain ⟨c, e, c', ns⟩ := o
  change c.Stepped e c' ns at hs
  change c.Sound at h
  change n ≤ c.issued at hn
  cases hs with
  | asked hh hc =>
    have hne : c.issued + 1 ≠ n := by omega
    refine .of_quiet (drops_of_link_eq (Client.submit_link ..)) nofun nofun ?_ ?_ ?_ rfl
    · simp [queues?, hne]
    · change ((c.joined _ _).submit _).board.pending.get? _ = _
      rw [Client.submit_board]
      refine (Table.get?_insert ..).trans (if_neg fun heq => hne (c.ids.distinct heq))
    · change ((c.joined _ _).submit _).outstanding? n = _
      rw [Client.outstanding?_submit, Client.outstanding?_joined]
      simp [hne, Client.frameOf]
  | denied hh hc =>
    refine .of_quiet (drops_of_link_eq rfl) nofun nofun ?_ rfl rfl rfl
    simp [queues?, hc]
  | movedUp hb hq =>
    refine .stays (rulings_eq_nil (drops_of_link_eq rfl) nofun nofun) rfl ?_ rfl
    refine (Client.outstanding?_enqueue ..).trans ?_
    simp only [queues?, hb, List.head?_cons, Option.map_some, Option.some.injEq]
    rfl
  | @collected m x resp ho hr =>
    have hset := Client.outstanding?_settled c m n
    by_cases hm : m = n
    · subst hm
      rw [if_pos rfl] at hset
      exact .collected ho hr (rulings_eq_nil (drops_of_link_eq rfl) nofun nofun) rfl hset rfl
        (if_pos rfl)
    · rw [if_neg hm] at hset
      exact .of_quiet (drops_of_link_eq rfl) nofun nofun nofun rfl hset (if_neg hm)
  | @expired m x d ho hd hx hle =>
    have hset := Client.outstanding?_settled c m n
    have hget := Table.get?_erase c.board.pending (c.ids.id m) (c.ids.id n)
    by_cases hm : m = n
    · subst hm
      rw [if_pos rfl] at hset hget
      exact .expired ho hx hd hle (rulings_of_late (drops_of_link_eq rfl) nofun rfl hn) hget hset
        rfl (if_pos rfl)
    · rw [if_neg hm] at hset
      rw [if_neg fun heq => hm (c.ids.distinct heq)] at hget
      refine .of_quiet (drops_of_link_eq rfl) nofun ?_ nofun hget hset (if_neg hm)
      exact fun heq => hm (Option.some.inj heq)
  | refused hl | ungreeted hl | connected hl =>
    exact .of_quiet (drops_of_down hl) nofun nofun nofun rfl rfl rfl
  | received hl => exact .of_receive h hn rfl hl rfl
  | lost hl => exact .of_cut h hn hl rfl nofun rfl rfl rfl
  | unwritten hl => exact .of_cut h hn hl rfl nofun rfl rfl rfl
  | retired => exact .of_quiet (drops_of_stopped rfl) nofun nofun nofun rfl rfl rfl
  | _ => exact .of_quiet (drops_of_link_eq rfl) nofun nofun nofun rfl rfl rfl

end Occurrence

/-! ### Histories -/

theorem ruling?_append (n : Nat) (os : List Occurrence) (o : Occurrence) :
    ruling? n (os ++ [o]) = (ruling? n os).or (o.rulings n).head? := by
  unfold ruling?
  rw [List.flatMap_append, List.head?_append, List.flatMap_singleton]

theorem ruling?_append_of_ruled {n : Nat} {os : List Occurrence} {r : Ruling} (o : Occurrence)
    (hr : ruling? n os = some r) : ruling? n (os ++ [o]) = some r := by
  rw [ruling?_append, hr, Option.some_or]

theorem ruling?_append_of_unruled {n : Nat} {os : List Occurrence} (o : Occurrence)
    (hr : ruling? n os = none) : ruling? n (os ++ [o]) = (o.rulings n).head? := by
  rw [ruling?_append, hr, Option.none_or]

theorem completions_append (n : Nat) (os : List Occurrence) (o : Occurrence) :
    completions n (os ++ [o]) = completions n os ++ o.completions n := by
  unfold completions
  rw [List.flatMap_append, List.flatMap_singleton]

theorem asks_append (os : List Occurrence) (o : Occurrence) :
    asks (os ++ [o]) = asks os ++ o.ask?.toList := by
  unfold asks
  rw [List.filterMap_append]
  cases h : o.ask? <;> simp [h]

variable {set : Settings} {origin : Moment} {ids : IdSource} {os : List Occurrence}
  {c : Client} {o : Occurrence} {n : Nat}

/-! ### The requests that were made -/

theorem Occurrence.ask?_eq (hs : o.before.Stepped o.event o.after o.notices) :
    (o.ask? = none ∧ o.after.issued = o.before.issued) ∨
      ∃ w q, o.ask? = some (o.before.issued + 1, w, q) ∧ o.event = .ask w q ∧
        o.before.board.connected = true ∧
        o.after = (o.before.joined w q).submit (o.before.frameOf q) := by
  obtain ⟨c, e, c', ns⟩ := o
  change c.Stepped e c' ns at hs
  cases hs with
  | asked hh hc => exact .inr ⟨_, _, by simp [ask?, hc], rfl, hc, rfl⟩
  | denied hh hc => exact .inl ⟨by simp [ask?, hc], rfl⟩
  | _ => exact .inl ⟨rfl, rfl⟩

namespace Trace

theorem numbers (h : Trace set origin ids os c) : (asks os).map (·.1) = List.range' 1 c.issued := by
  induction h with
  | start => rfl
  | @next os c e c' ns h hs ih =>
    have hst := Client.stepped_of_step h.sound.1.fresh hs
    rw [asks_append, List.map_append, ih]
    rcases Occurrence.ask?_eq (o := ⟨c, e, c', ns⟩) hst with ⟨hask, hi⟩ | ⟨w, q, hask, -, -, ha⟩
    · have hi : c'.issued = c.issued := hi
      rw [hask, hi]
      exact List.append_nil _
    · have ha : c' = (c.joined w q).submit (c.frameOf q) := ha
      have hi : c'.issued = c.issued + 1 := by rw [ha, Client.submit_issued, Client.joined]
      rw [hask, hi, List.range'_concat, Nat.one_mul, Nat.add_comm 1]
      rfl

theorem mem_asks_iff (h : Trace set origin ids os c) :
    (∃ w q, (n, w, q) ∈ asks os) ↔ 1 ≤ n ∧ n ≤ c.issued := by
  have hmem : n ∈ (asks os).map (·.1) ↔ n ∈ List.range' 1 c.issued := by rw [h.numbers]
  rw [List.mem_range'_1] at hmem
  simp only [List.mem_map, Prod.exists, exists_and_right, exists_eq_right] at hmem
  rw [hmem]
  omega

end Trace

/-! ### Requests that were not made -/

theorem Client.Stepped.outstanding?_eq_none {c c' : Client} {e : Event} {ns : List Notice}
    (hs : c.Stepped e c' ns) (hn : c.outstanding? n = none)
    (hne : c'.issued = c.issued + 1 → n ≠ c.issued + 1) : c'.outstanding? n = none := by
  cases hs with
  | asked =>
    have hne := hne (Client.submit_issued ..)
    rw [Client.outstanding?_submit, Client.outstanding?_joined, hn, if_neg (Ne.symm hne)]
    rfl
  | movedUp => exact (Client.outstanding?_enqueue ..).trans (Option.map_eq_none_iff.2 hn)
  | collected | expired =>
    refine (Client.outstanding?_settled ..).trans ?_
    rw [hn, ite_self]
  | received => exact (Client.outstanding?_hearing ..).trans (Option.map_eq_none_iff.2 hn)
  | lost | unwritten =>
    refine (Client.outstanding?_hearing (c.heard _) ..).trans (Option.map_eq_none_iff.2 ?_)
    exact (Client.outstanding?_hearing ..).trans (Option.map_eq_none_iff.2 hn)
  | _ => exact hn

theorem Occurrence.completions_eq_nil (hs : o.before.Stepped o.event o.after o.notices)
    (hn : o.before.outstanding? n = none) : o.completions n = [] := by
  obtain ⟨c, e, c', ns⟩ := o
  change c.Stepped e c' ns at hs
  change c.outstanding? n = none at hn
  cases hs with
  | @collected m x r ho | @expired m x d ho =>
    refine if_neg ?_
    rintro rfl
    cases hn.symm.trans ho
  | _ => rfl

namespace Trace

theorem of_unmade (h : Trace set origin ids os c) (hn : ¬(1 ≤ n ∧ n ≤ c.issued)) :
    c.outstanding? n = none ∧ completions n os = [] := by
  induction h with
  | start => exact ⟨rfl, rfl⟩
  | @next os c e c' ns h hs ih =>
    have hst := Client.stepped_of_step h.sound.1.fresh hs
    have hle := hst.issued_le
    obtain ⟨ho, hc⟩ := ih (by omega)
    refine ⟨hst.outstanding?_eq_none ho (by omega), ?_⟩
    rw [completions_append, hc, Occurrence.completions_eq_nil (o := ⟨c, e, c', ns⟩) hst ho]
    rfl

theorem ruling?_of_unmade (h : Trace set origin ids os c) (hn : c.issued < n) :
    ruling? n os = none := by
  induction h with
  | start => rfl
  | next h hs ih =>
    have hst := Client.stepped_of_step h.sound.1.fresh hs
    have hlt := Nat.lt_of_le_of_lt hst.issued_le hn
    rw [ruling?_append, ih hlt, Occurrence.rulings, if_neg (Nat.not_le.2 hlt)]
    rfl

end Trace

end Overseer.Engine
