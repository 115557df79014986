import Overseer.Time.Span

/-!
# Backoff

The pauses between attempts to reach the engine: one second at first, then twice as long each time
up to a limit.
-/

namespace Overseer.Engine.Backoff

/-- The first pause in milliseconds. -/
def first : Nat := 1000

/-- The pause after one of length `current`. -/
def next (current limit : Nat) : Nat := min (current + current) limit

/-- The pauses after one of length `current`, so many of them. -/
def series (limit : Nat) : Nat → Nat → List Nat
  | 0, _ => []
  | steps + 1, current => next current limit :: series limit steps (next current limit)

end Overseer.Engine.Backoff
