import Overseer.Wire.Envelope

/-!
# The switchboard

Where frames of the engine are handed to those who wait for them: answers to the request that they
name, log lines to every sink. A request waits under its id, and a sink stays until it is removed or
nobody takes its events any more.
-/

namespace Overseer.Engine

open Overseer.Wire Overseer.Batch

/-- What a switchboard hands out. `W` are those who wait for answers. -/
inductive Delivery (W : Type) where
  | answer (waiter : W) (m : Message)
  /-- No answer will come. -/
  | hungUp (waiter : W)
  /-- A log event for a sink. -/
  | log (sink : Nat) (e : LogEvent)

/-- What the handles of a client share with the loop of its connection: the pending requests, the
subscribers of the log, and whether the connection is up. -/
structure Switchboard (W : Type) where
  /-- The requests without an answer, by id. -/
  pending : Table W
  /-- The sinks in the order in which they came. -/
  sinks : List Nat
  /-- The sinks whose events are taken. -/
  taken : List Nat
  /-- The number of the next sink. -/
  nextSink : Nat
  connected : Bool

namespace Switchboard

variable {W : Type}

/-- Nobody waits. -/
def initial : Switchboard W := ⟨.empty, [], [], 1, false⟩

/-- Waits for the answer to a request. Who waited under the same id waits no more. -/
def register (s : Switchboard W) (id : String) (w : W) : Switchboard W × List (Delivery W) :=
  ({ s with pending := s.pending.insert id w }, (s.pending.get? id).toList.map .hungUp)

/-- Waits no more for the answer to a request. -/
def forget (s : Switchboard W) (id : String) : Switchboard W × List (Delivery W) :=
  ({ s with pending := s.pending.erase id }, (s.pending.get? id).toList.map .hungUp)

/-- No request will be answered. -/
def failPending (s : Switchboard W) : Switchboard W × List (Delivery W) :=
  ({ s with pending := .empty }, s.pending.entries.map fun e => .hungUp e.2)

/-- Adds a sink. -/
def addSink (s : Switchboard W) : Switchboard W × Nat :=
  ({ s with
    sinks := s.sinks ++ [s.nextSink]
    taken := s.taken ++ [s.nextSink]
    nextSink := s.nextSink + 1 }, s.nextSink)

/-- Removes a sink. -/
def removeSink (s : Switchboard W) (id : Nat) : Switchboard W :=
  { s with sinks := s.sinks.filter (· != id) }

/-- Nobody takes the events of a sink any more; whether somebody did. -/
def dropTaker (s : Switchboard W) (id : Nat) : Switchboard W × Bool :=
  ({ s with taken := s.taken.filter (· != id) }, s.taken.contains id)

/-- Hands a log event to the sinks, and removes those whose events nobody takes. -/
def dispatch (s : Switchboard W) (e : LogEvent) : Switchboard W × List (Delivery W) :=
  let live := s.sinks.filter s.taken.contains
  ({ s with sinks := live }, live.map fun id => .log id e)

/-- Hands an answer to the request that it names. -/
def resolve (s : Switchboard W) (id : Option String) (m : Message) :
    Switchboard W × List (Delivery W) :=
  match id with
  | none => (s, [])
  | some id =>
    match s.pending.get? id with
    | some w => ({ s with pending := s.pending.erase id }, [.answer w m])
    | none => (s, [])

/-- Hands out a frame. What a newer version of the protocol says is passed over, and so is what
engines do not say. -/
def route (s : Switchboard W) (e : Envelope) : Switchboard W × List (Delivery W) :=
  if currentVersion < e.version then (s, [])
  else
    match e.message with
    | .log event => s.dispatch event
    | .runFinished reason => s.dispatch reason.toLogEvent
    | .status _ | .commandResult _ => s.resolve e.requestId e.message
    | .hello _ | .statusRequest _ | .command _ => (s, [])

/-- Hands out frames in order. -/
def routeAll (s : Switchboard W) : List Envelope → Switchboard W × List (Delivery W)
  | [] => (s, [])
  | e :: rest =>
    let one := s.route e
    let more := one.1.routeAll rest
    (more.1, one.2 ++ more.2)

end Switchboard

end Overseer.Engine
