import Overseer.Wire.Envelope

/-!
# The harbor

Where the engine waits for clients: its socket and the connections that came in on it, numbered from
one. Either end may close a connection. Bytes that the engine sent are kept until the client reads
them.
-/

namespace Overseer.Engine

open Overseer.Wire

/-- A connection as the engine has it. -/
structure Berth where
  number : Nat
  /-- The bytes that the client has not read yet. -/
  inbound : List UInt8
  /-- Whether the engine closed it. -/
  closed : Bool
  /-- Whether the client closed it. -/
  abandoned : Bool
  deriving DecidableEq, Repr

/-- Whether both ends are open. -/
def Berth.live (b : Berth) : Bool := !b.closed && !b.abandoned

/-- What the engine sees. -/
inductive Sight where
  | accepted (conn : Nat)
  | frame (conn : Nat) (e : Envelope)
  /-- The client closed a connection. -/
  | ended (conn : Nat)

/-- The socket of the engine and its connections. -/
structure Harbor where
  listening : Bool
  /-- The connections in the order in which they came in. -/
  berths : List Berth
  deriving DecidableEq, Repr

namespace Harbor

/-- No connection came in yet. -/
def initial (listening : Bool) : Harbor := ⟨listening, []⟩

/-- The number of the newest connection. -/
def newest (h : Harbor) : Nat := h.berths.length

/-- A connection by its number. -/
def berth? (h : Harbor) (conn : Nat) : Option Berth := h.berths.find? (·.number == conn)

/-- Whether both ends of a connection are open. -/
def live (h : Harbor) (conn : Nat) : Bool := ((h.berth? conn).map Berth.live).getD false

/-- Changes a connection. -/
def modify (h : Harbor) (conn : Nat) (f : Berth → Berth) : Harbor :=
  { h with berths := h.berths.map fun b => if b.number = conn then f b else b }

/-- Begins to listen; whether nobody did. -/
def listen (h : Harbor) : Harbor × Bool := ({ h with listening := true }, !h.listening)

/-- Listens no more; whether somebody did. -/
def unlisten (h : Harbor) : Harbor × Bool := ({ h with listening := false }, h.listening)

/-- Sends bytes to the client; whether the connection took them. -/
def send (h : Harbor) (conn : Nat) (bytes : List UInt8) : Harbor × Bool :=
  if h.live conn then (h.modify conn fun b => { b with inbound := b.inbound ++ bytes }, true)
  else (h, false)

/-- Closes a connection; whether it was open. -/
def close (h : Harbor) (conn : Nat) : Harbor × Bool :=
  if h.live conn then (h.modify conn fun b => { b with closed := true }, true) else (h, false)

/-- A connection comes in. -/
def accept (h : Harbor) : Harbor × Nat :=
  let conn := h.newest + 1
  ({ h with berths := h.berths ++ [⟨conn, [], false, false⟩] }, conn)

/-- The client closes a connection. The engine sees it unless it closed the connection itself. -/
def abandon (h : Harbor) (conn : Nat) : Harbor × List Sight :=
  (h.modify conn fun b => { b with abandoned := true },
    if h.live conn then [.ended conn] else [])

end Harbor

end Overseer.Engine
