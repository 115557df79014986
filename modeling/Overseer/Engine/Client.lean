import Overseer.Engine.Backoff
import Overseer.Engine.Error
import Overseer.Engine.Greeting
import Overseer.Engine.Ids
import Overseer.Engine.Request
import Overseer.Engine.Settings
import Overseer.Engine.Switchboard
import Overseer.Wire.Frame

/-!
# The client of the engine

A client keeps one connection to the engine, tries again after a pause when it has none, and lets
any number of callers ask at the same time. `step` says what each event does, one at a time; which
of them comes next is left open.

A request waits in a queue of `queueCapacity` frames until it is written, and behind that queue when
it is full. Its time runs from the moment when it is in the queue. What is in the queue when a
connection ends or begins is dropped, for its callers were told of the end.
-/

namespace Overseer.Engine

open Overseer.Batch Overseer.Monitor Overseer.Time Overseer.Wire

/-- Where the message is kept that answers a request. -/
inductive Slot where
  /-- None came yet. -/
  | empty
  /-- It came. -/
  | filled (m : Message)
  /-- None will come. -/
  | hungUp

/-- A request whose caller is not answered yet. -/
structure Outstanding where
  /-- The number of the request. -/
  number : Nat
  caller : Nat
  request : Request
  /-- When the time is up, once the request is in the queue. -/
  deadline : Option Nat
  /-- The message that answers it. -/
  slot : Slot

/-- A caller who waits for the connection. -/
structure Watcher where
  caller : Nat
  deadline : Nat
  /-- How long the caller waits in all. -/
  patience : Nat
  deriving DecidableEq, Repr

/-- The connection. -/
inductive Link where
  /-- There is none. The next attempt is made at `retry`, the pause after that would be `pause`, and
  an old connection may still be held. -/
  | down (retry pause : Nat) (held : Option Nat)
  | up (conn : Nat) (feed : Feed)
  /-- There will be none any more. -/
  | stopped
  deriving DecidableEq, Repr

/-- What an attempt to connect finds. -/
inductive Dial where
  /-- Nobody. -/
  | refused
  /-- A connection that takes no bytes. -/
  | broken (conn : Nat)
  | accepted (conn : Nat)
  deriving DecidableEq, Repr

/-- What others see of a client. -/
inductive Notice where
  | answered (caller : Nat) (r : Response)
  /-- A caller who waited for the connection is answered. -/
  | watched (caller : Nat) (r : Except ConnectError Unit)
  /-- A log event for a sink. -/
  | logged (sink : Nat) (e : LogEvent)
  | reached (conn : Nat)
  | wrote (conn : Nat) (e : Envelope)
  | dropped (conn : Nat)
  /-- The next attempt is made after so many milliseconds. -/
  | resting (ms : Nat)

/-- What happens to a client. -/
inductive Event where
  /-- Somebody asks the engine for something. -/
  | ask (caller : Nat) (r : Request)
  /-- Somebody waits for the connection, for so many milliseconds at most. -/
  | watch (caller patience : Nat)
  | subscribe
  | unsubscribe (sink : Nat)
  /-- Nobody takes the events of a sink any more. -/
  | leave (sink : Nat)
  | release
  | pass (ms : Nat)
  /-- The first request behind the queue gets into it. -/
  | moveUp
  /-- A caller takes what came of a request. -/
  | collect (number : Nat)
  | expire (number : Nat)
  /-- A caller who waits for the connection learns of it. -/
  | notice (caller : Nat)
  /-- The time of a caller who waits for the connection is up. -/
  | giveUp (caller : Nat)
  | dial (d : Dial)
  | receive (chunk : List UInt8)
  | lose
  /-- The next frame of the queue is written, if the connection takes it. -/
  | write (taken : Bool)
  /-- The client ends, as nobody needs it any more. -/
  | retire

/-- A client of the engine: its handles, the loop of its connection, and the queue between them. -/
structure Client where
  settings : Settings
  /-- The time of day at its beginning. -/
  origin : Moment
  /-- Where the ids of the requests come from. -/
  ids : IdSource
  /-- The time since then, in milliseconds. -/
  now : Nat
  /-- Who waits for what. -/
  board : Switchboard Nat
  /-- The frames that will be written, each with the number of its request. -/
  queue : List (Nat × Envelope)
  /-- The frames that wait for room in the queue. -/
  behind : List (Nat × Envelope)
  outstanding : List Outstanding
  watchers : List Watcher
  link : Link
  /-- How many requests were made. -/
  issued : Nat
  /-- Whether more callers may come. -/
  held : Bool

/-- How many frames the queue holds. -/
def queueCapacity : Nat := 64

namespace Client

/-- A client at the beginning: its first attempt is made at once. -/
def initial (s : Settings) (origin : Moment) (ids : IdSource := .counted) : Client :=
  ⟨s, origin, ids, 0, .initial, [], [], [], [], .down 0 Backoff.first none, 0, true⟩

/-- The time of day. -/
def moment (c : Client) : Moment := c.origin.addMillis c.now

/-- The longest pause between two attempts. -/
def limit (c : Client) : Nat := c.settings.longestPause

/-- Whether there is or may be a caller. -/
def attended (c : Client) : Bool :=
  c.held || !c.outstanding.isEmpty || !c.watchers.isEmpty

/-! ### Answers -/

/-- Puts what came of a request where its caller will find it. -/
def fill (c : Client) (number : Nat) (s : Slot) : Client :=
  { c with
    outstanding := c.outstanding.map fun o =>
      if o.number = number then { o with slot := s } else o }

/-- Hands out what the switchboard delivers. -/
def deliver (c : Client) : List (Delivery Nat) → Client × List Notice
  | [] => (c, [])
  | .answer number m :: rest => (c.fill number (.filled m)).deliver rest
  | .hungUp number :: rest => (c.fill number .hungUp).deliver rest
  | .log sink e :: rest =>
    let more := c.deliver rest
    (more.1, .logged sink e :: more.2)

/-- Takes a new state of the switchboard and hands out what it delivers. -/
def routed (c : Client) (r : Switchboard Nat × List (Delivery Nat)) : Client × List Notice :=
  { c with board := r.1 }.deliver r.2

/-- A request is outstanding no more. -/
def settled (c : Client) (number : Nat) : Client :=
  { c with outstanding := c.outstanding.filter (·.number != number) }

/-- An outstanding request. -/
def outstanding? (c : Client) (number : Nat) : Option Outstanding :=
  c.outstanding.find? (·.number == number)

/-- A caller takes what came of a request. -/
def collect (c : Client) (number : Nat) : Option (Client × List Notice) :=
  match c.outstanding? number with
  | some ⟨_, caller, request, some _, .filled m⟩ =>
    some (c.settled number, [.answered caller (request.interpret m)])
  | some ⟨_, caller, _, some _, .hungUp⟩ =>
    some (c.settled number, [.answered caller (.error closedEarly)])
  | _ => none

/-- The time for a request is up. -/
def expire (c : Client) (number : Nat) : Option (Client × List Notice) :=
  match c.outstanding? number with
  | some ⟨_, caller, _, some deadline, .empty⟩ =>
    if deadline ≤ c.now then
      let board := (c.board.forget (c.ids.id number)).1
      some ({ c with board := board }.settled number,
        [.answered caller (.error (.timeout (.ofMillis c.settings.patience)))])
    else none
  | _ => none

/-! ### Requests -/

/-- Puts a frame into the queue; from now on the time of its request runs. -/
def enqueue (c : Client) (frame : Nat × Envelope) : Client :=
  { c with
    queue := c.queue ++ [frame]
    outstanding := c.outstanding.map fun o =>
      if o.number = frame.1 then { o with deadline := some (c.now + c.settings.patience) } else o }

/-- Puts a frame into the queue, or behind it. -/
def submit (c : Client) (frame : Nat × Envelope) : Client :=
  if c.behind.isEmpty ∧ c.queue.length < queueCapacity then c.enqueue frame
  else { c with behind := c.behind ++ [frame] }

/-- The first request behind the queue gets into it. -/
def moveUp (c : Client) : Option Client :=
  match c.behind with
  | frame :: rest =>
    if c.queue.length < queueCapacity then some ({ c with behind := rest }.enqueue frame) else none
  | [] => none

/-- Somebody asks the engine for something. -/
def ask (c : Client) (caller : Nat) (r : Request) : Client × List Notice :=
  if c.board.connected then
    let number := c.issued + 1
    let id := c.ids.id number
    let c := { c with
      issued := number
      outstanding := c.outstanding ++ [(⟨number, caller, r, none, .empty⟩ : Outstanding)] }
    let out := c.routed (c.board.register id number)
    (out.1.submit (number, envelopeOf c.settings.client c.moment (some id) r.message), out.2)
  else (c, [.answered caller (.error (notConnected c.settings.socket))])

/-! ### Waiting for the connection -/

/-- A caller waits for the connection no more. -/
def unwatch (c : Client) (caller : Nat) : Client :=
  { c with watchers := c.watchers.filter (·.caller != caller) }

/-- Somebody who waits for the connection. -/
def watcher? (c : Client) (caller : Nat) : Option Watcher :=
  c.watchers.find? (·.caller == caller)

/-- Somebody waits for the connection, for so many milliseconds at most. -/
def watch (c : Client) (caller patience : Nat) : Client :=
  { c with watchers := c.watchers ++ [⟨caller, c.now + patience, patience⟩] }

/-- A caller who waits for the connection learns of it. -/
def notice (c : Client) (caller : Nat) : Option (Client × List Notice) :=
  match c.watcher? caller with
  | some _ =>
    if c.board.connected then some (c.unwatch caller, [.watched caller (.ok ())]) else none
  | none => none

/-- The time of a caller who waits for the connection is up. -/
def giveUp (c : Client) (caller : Nat) : Option (Client × List Notice) :=
  match c.watcher? caller with
  | some w =>
    if c.board.connected = false ∧ w.deadline ≤ c.now then
      some (c.unwatch caller,
        [.watched caller (.error (.timeout c.settings.socket (.ofMillis w.patience)))])
    else none
  | none => none

/-! ### The connection -/

/-- Waits for `pause` before the next attempt. What is in the queue is dropped. -/
def rest (c : Client) (pause : Nat) (held : Option Nat) : Client × List Notice :=
  ({ c with
    queue := []
    link := .down (c.now + pause) (Backoff.next pause c.limit) held }, [.resting pause])

/-- Whether a frame is within the limit. -/
def writable (c : Client) (e : Envelope) : Bool :=
  match encodeFrame e.toValue c.settings.frameLimit with
  | .ok _ => true
  | .error _ => false

/-- An attempt to connect. A connection begins with an introduction; it is held for a pause, and not
used, when that cannot be written. -/
def dial (c : Client) (d : Dial) : Option (Client × List Notice) :=
  match c.link with
  | .down retry pause held =>
    if c.now < retry then none
    else
      let gone := held.toList.map Notice.dropped
      match d with
      | .refused =>
        let out := c.rest pause none
        some (out.1, gone ++ out.2)
      | .broken conn =>
        let out := c.rest Backoff.first (some conn)
        some (out.1, gone ++ .reached conn :: out.2)
      | .accepted conn =>
        let hello := greeting c.settings.client c.moment
        if c.writable hello then
          some ({ c with
            queue := []
            board := { c.board with connected := true }
            link := .up conn (.start c.settings.frameLimit) },
            gone ++ [.reached conn, .wrote conn hello])
        else
          let out := c.rest Backoff.first (some conn)
          some (out.1, gone ++ .reached conn :: out.2)
  | _ => none

/-- Bytes come in. -/
def receive (c : Client) (chunk : List UInt8) : Option (Client × List Notice) :=
  match c.link with
  | .up conn feed =>
    let out := feed.push Envelope.read chunk
    some ({ c with link := .up conn out.1 }.routed (c.board.routeAll (frames out.2)))
  | _ => none

/-- The connection ends. What came without an end of line is still read; then no request will be
answered any more. -/
def lose (c : Client) : Option (Client × List Notice) :=
  match c.link with
  | .up conn feed =>
    let last := c.routed (c.board.routeAll (frames (feed.finish Envelope.read).2))
    let ended := last.1.routed { last.1.board with connected := false }.failPending
    let out := ended.1.rest Backoff.first (some conn)
    some (out.1, last.2 ++ ended.2 ++ out.2)
  | _ => none

/-- The next frame of the queue is written. The connection ends if the frame is too long, or if it
is not taken. -/
def write (c : Client) (taken : Bool) : Option (Client × List Notice) :=
  match c.link, c.queue with
  | .up conn _, frame :: rest =>
    let c := { c with queue := rest }
    if taken && c.writable frame.2 then some (c, [.wrote conn frame.2]) else c.lose
  | _, _ => none

/-- The client ends, as nobody needs it any more. -/
def retire (c : Client) : Option (Client × List Notice) :=
  if c.attended then none
  else
    let gone := { c with
      queue := []
      behind := []
      board := { c.board with connected := false }
      link := .stopped }
    match c.link with
    | .down _ _ held => some (gone, held.toList.map .dropped)
    | .up conn _ => some (gone, [.dropped conn])
    | .stopped => none

/-! ### Steps -/

/-- What an event does; `none` if it cannot happen. -/
def step (c : Client) : Event → Option (Client × List Notice)
  | .ask caller r => if c.held then some (c.ask caller r) else none
  | .watch caller patience => if c.held then some (c.watch caller patience, []) else none
  | .subscribe => if c.held then some ({ c with board := c.board.addSink.1 }, []) else none
  | .unsubscribe sink => some ({ c with board := c.board.removeSink sink }, [])
  | .leave sink => some ({ c with board := (c.board.dropTaker sink).1 }, [])
  | .release => some ({ c with held := false }, [])
  | .pass ms => some ({ c with now := c.now + ms }, [])
  | .moveUp => c.moveUp.map fun c => (c, [])
  | .collect number => c.collect number
  | .expire number => c.expire number
  | .notice caller => c.notice caller
  | .giveUp caller => c.giveUp caller
  | .dial d => c.dial d
  | .receive chunk => c.receive chunk
  | .lose => c.lose
  | .write taken => c.write taken
  | .retire => c.retire

/-! ### Time -/

/-- When the next timer is due. -/
def nextTimer (c : Client) : Option Nat :=
  let retry :=
    match c.link with
    | .down retry _ _ => [retry]
    | _ => []
  (c.outstanding.filterMap (·.deadline) ++ c.watchers.map (·.deadline) ++ retry).min?

end Client

end Overseer.Engine
