import Overseer.Engine.Client
import Overseer.Engine.Harbor

/-!
# Client and engine together

A client whose connections come in at a harbor. `settle` lets happen whatever can happen without the
clock and without the engine, until nothing can, and `advance` moves the clock from timer to timer.
-/

namespace Overseer.Engine

open Overseer.Time Overseer.Wire

/-- A client and the engine that it connects to. -/
structure Exchange where
  client : Client
  /-- The engine's end. -/
  harbor : Harbor

/-- What is seen of an exchange. -/
inductive Happening where
  | client (n : Notice)
  | engine (s : Sight)

namespace Exchange

/-- How many bytes the client reads at once. -/
def chunkSize : Nat := 8192

/-- An exchange at the beginning. -/
def initial (s : Settings) (origin : Moment) (listening : Bool) (ids : IdSource := .counted) :
    Exchange :=
  ⟨.initial s origin ids, .initial listening⟩

/-- What the engine has of something that is seen of the client. -/
def observe (x : Exchange) (n : Notice) : Exchange × List Happening :=
  match n with
  | .reached conn => (x, [.client n, .engine (.accepted conn)])
  | .wrote conn e => (x, .client n :: if x.harbor.live conn then [.engine (.frame conn e)] else [])
  | .dropped conn =>
    let out := x.harbor.abandon conn
    ({ x with harbor := out.1 }, .client n :: out.2.map .engine)
  | _ => (x, [.client n])

/-- What the engine has of all that is seen of the client. -/
def observeAll (x : Exchange) : List Notice → Exchange × List Happening
  | [] => (x, [])
  | n :: rest =>
    let one := x.observe n
    let more := one.1.observeAll rest
    (more.1, one.2 ++ more.2)

/-- Lets an event happen to the client. -/
def happen (x : Exchange) (e : Event) : Option (Exchange × List Happening) :=
  (x.client.step e).map fun out => { x with client := out.1 }.observeAll out.2

/-- The client reads what came in on its connection, or learns that the engine closed it. -/
def read (x : Exchange) : Option (Exchange × List Happening) :=
  match x.client.link with
  | .up conn _ =>
    match x.harbor.berth? conn with
    | some b =>
      if b.inbound ≠ [] then
        { x with
          harbor := x.harbor.modify conn fun b => { b with inbound := b.inbound.drop chunkSize }
        }.happen (.receive (b.inbound.take chunkSize))
      else if b.closed then x.happen .lose
      else none
    | none => none
  | _ => none

/-- The client writes what is next in its queue. -/
def write (x : Exchange) : Option (Exchange × List Happening) :=
  match x.client.link with
  | .up conn _ => x.happen (.write (x.harbor.live conn))
  | _ => none

/-- The client tries to connect. -/
def dial (x : Exchange) : Option (Exchange × List Happening) :=
  match x.client.link with
  | .down retry _ _ =>
    if x.client.now < retry then none
    else if x.harbor.listening then
      let out := x.harbor.accept
      { x with harbor := out.1 }.happen (.dial (.accepted out.2))
    else x.happen (.dial .refused)
  | _ => none

/-- The next thing that happens. Callers are answered first, and those whose time is up do not learn
what happens at the same moment. -/
def next (x : Exchange) : Option (Exchange × List Happening) :=
  (x.client.outstanding.findSome? fun o => x.happen (.collect o.number)) <|>
    (x.client.watchers.findSome? fun w => x.happen (.notice w.caller)) <|>
    (x.client.outstanding.findSome? fun o => x.happen (.expire o.number)) <|>
    (x.client.watchers.findSome? fun w => x.happen (.giveUp w.caller)) <|>
    x.happen .moveUp <|> x.read <|> x.write <|> x.dial <|> x.happen .retire

/-- How many things may happen before nothing can. -/
def work (x : Exchange) : Nat :=
  let c := x.client
  let inbound := x.harbor.berths.foldl (fun n b => n + b.inbound.length) 0
  2 * (c.outstanding.length + c.watchers.length + c.queue.length + c.behind.length) + inbound + 8

/-- Lets happen what can, at most `fuel` things. -/
def settleFor : Nat → Exchange → Exchange × List Happening
  | 0, x => (x, [])
  | fuel + 1, x =>
    match x.next with
    | none => (x, [])
    | some one =>
      let more := settleFor fuel one.1
      (more.1, one.2 ++ more.2)

/-- Lets happen what can until nothing can. -/
def settle (x : Exchange) : Exchange × List Happening := settleFor x.work x

/-! ### From outside -/

/-- Lets an event happen to the client that somebody outside brings about. -/
def prompt (x : Exchange) (e : Event) : Exchange × List Happening := (x.happen e).getD (x, [])

/-- Lets so many milliseconds pass at once. -/
def pass (x : Exchange) (ms : Nat) : Exchange :=
  { x with client := { x.client with now := x.client.now + ms } }

/-- Moves the clock to `target`, timer by timer, at most `fuel` of them. -/
def advanceFor (target : Nat) : Nat → Exchange → Exchange × List Happening
  | 0, x => (x.pass (target - x.client.now), [])
  | fuel + 1, x =>
    match x.client.nextTimer with
    | some t =>
      if t ≤ target then
        let one := (x.pass (t - x.client.now)).settle
        let more := advanceFor target fuel one.1
        (more.1, one.2 ++ more.2)
      else (x.pass (target - x.client.now), [])
    | none => (x.pass (target - x.client.now), [])

/-- Moves the clock by so many milliseconds. -/
def advance (x : Exchange) (ms : Nat) : Exchange × List Happening :=
  let timers := x.client.outstanding.length + x.client.watchers.length + ms / Backoff.first + 2
  advanceFor (x.client.now + ms) timers x

end Exchange

end Overseer.Engine
