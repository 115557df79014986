import Overseer.Batch.Log

/-!
# The journal

The log lines of the current run in the order in which they came, the oldest ones being dropped
when there are more than it holds. The numbers of entries go on over the end of a run.
-/

namespace Overseer.Monitor

open Overseer.Batch Overseer.Time

/-- The run log, bounded to a capacity. -/
structure Journal where
  /-- The entries that are kept, oldest first. -/
  entries : List LogEntry
  capacity : Nat
  nextSeq : Nat
  /-- How many entries of this run were dropped. -/
  evicted : Nat
  deriving Repr

namespace Journal

/-- How many entries a journal keeps unless something else is said. -/
def defaultCapacity : Nat := 5000

/-- A journal without entries, which keeps at least one. -/
def withCapacity (capacity : Nat) : Journal := ⟨[], max capacity 1, 0, 0⟩

/-- The number of entries. -/
def size (j : Journal) : Nat := j.entries.length

/-- Whether there is no entry. -/
def isEmpty (j : Journal) : Bool := j.entries.isEmpty

/-- The entry that an event becomes. -/
def entryOf (j : Journal) (e : LogEvent) (at_ : Moment) : LogEntry := ⟨j.nextSeq, e, at_⟩

/-- Takes in an event. -/
def append (j : Journal) (e : LogEvent) (at_ : Moment) : Journal :=
  let full := j.entries.length = j.capacity
  { j with
    entries := (if full then j.entries.drop 1 else j.entries) ++ [j.entryOf e at_]
    nextSeq := j.nextSeq + 1
    evicted := if full then j.evicted + 1 else j.evicted }

/-- Forgets the entries before a new run; their numbers are not used again. -/
def clear (j : Journal) : Journal := { j with entries := [], evicted := 0 }

/-- The newest entries, oldest first. -/
def tail (j : Journal) (limit : Nat) : List LogEntry :=
  j.entries.drop (j.entries.length - limit)

end Journal

end Overseer.Monitor
