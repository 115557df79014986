import Overseer.Batch.Log

/-!
# Sinks

The way by which log events come to a monitor: one side emits, the other takes. A subscription
stands for the engine's end of it and is cancelled at most once.
-/

namespace Overseer.Monitor

open Overseer.Batch

/-- A queue of log events whose taking side may be gone. -/
structure Sink where
  /-- Whether somebody still takes the events. -/
  taken : Bool
  /-- The events that wait, oldest first. -/
  waiting : List LogEvent
  deriving DecidableEq, Repr

namespace Sink

/-- A sink with somebody who takes the events. -/
def fresh : Sink := ⟨true, []⟩

/-- Emits an event; whether somebody takes it. -/
def emit (s : Sink) (e : LogEvent) : Sink × Bool :=
  if s.taken then ({ s with waiting := s.waiting ++ [e] }, true) else (s, false)

/-- Takes what waits. -/
def drain (s : Sink) : Sink × List LogEvent := ({ s with waiting := [] }, s.waiting)

/-- The taking side goes away; whether it was there. -/
def close (s : Sink) : Sink × Bool := (⟨false, []⟩, s.taken)

/-- A sink as diagnostics show it. -/
def diagnostic (s : Sink) : String :=
  "LogSink \x7b closed: " ++ (if s.taken then "false" else "true") ++ " \x7d"

end Sink

/-- A subscription, by whether there is something to cancel. -/
structure Subscription where
  /-- Whether ending it cancels something. -/
  active : Bool
  deriving DecidableEq, Repr

namespace Subscription

/-- How often ending it cancels something. -/
def cancels (s : Subscription) : Nat := if s.active then 1 else 0

/-- A subscription, if there is one, as diagnostics show it. -/
def diagnostic : Option Subscription → String
  | some s =>
    "Some(LogSubscription \x7b active: " ++ (if s.active then "true" else "false") ++ " \x7d)"
  | none => "None"

end Subscription

/-- A sink and the subscription that feeds it. -/
structure Tap where
  sink : Sink
  /-- The subscription while it lasts. -/
  subscription : Option Subscription
  /-- How often it was cancelled. -/
  cancelled : Nat
  deriving DecidableEq, Repr

namespace Tap

/-- A new sink; a detached subscription has nothing to cancel. -/
def fresh (detached : Bool) : Tap := ⟨.fresh, some ⟨!detached⟩, 0⟩

/-- Ends the subscription; whether there was one. -/
def unsubscribe (t : Tap) : Tap × Bool :=
  match t.subscription with
  | some s => ({ t with subscription := none, cancelled := t.cancelled + s.cancels }, true)
  | none => (t, false)

end Tap

end Overseer.Monitor
