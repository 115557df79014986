import Overseer.Monitor.Journal
import Overseer.Monitor.Roster
import Overseer.Monitor.Run

/-!
# Views

What is shown of a monitor: a row per account, how many accounts stand where, and the newest log
lines.
-/

namespace Overseer.Monitor

open Overseer.Json Overseer.Batch

/-- An account with its progress. -/
structure Row where
  id : String
  name : String
  status : Status
  message : String
  detail : Option String
  deriving DecidableEq, Repr

/-- How many accounts stand where. -/
structure Counters where
  total : Nat
  pending : Nat
  running : Nat
  succeeded : Nat
  failed : Nat
  /-- All but those whose turn has not come. -/
  processed : Nat
  deriving DecidableEq, Repr

/-- What is shown of a monitor. -/
structure View where
  lifecycle : Lifecycle
  epoch : Nat
  /-- The accounts in order. -/
  rows : List Row
  /-- How many stand where. -/
  counters : Counters
  logTail : List LogEntry
  /-- How many log lines there are. -/
  logLength : Nat
  /-- How many were dropped. -/
  logEvicted : Nat
  deriving DecidableEq, Repr

namespace Counters

/-- No account. -/
def zero : Counters := ⟨0, 0, 0, 0, 0, 0⟩

/-- Counts one account more. -/
def add (c : Counters) (s : Status) : Counters :=
  match s with
  | .pending => { c with total := c.total + 1, pending := c.pending + 1 }
  | .running => { c with total := c.total + 1, running := c.running + 1 }
  | .success => { c with total := c.total + 1, succeeded := c.succeeded + 1 }
  | .failed => { c with total := c.total + 1, failed := c.failed + 1 }

/-- Counts accounts by where they stand. -/
def tally (statuses : List Status) : Counters :=
  let c := statuses.foldl add zero
  { c with processed := c.total - c.pending }

/-- Counters as a value. -/
def toValue (c : Counters) : Value :=
  .object [("total", .nat c.total), ("pending", .nat c.pending), ("running", .nat c.running),
    ("succeeded", .nat c.succeeded), ("failed", .nat c.failed), ("processed", .nat c.processed)]

end Counters

/-- The row of an account. -/
def Row.of (a : Account) (p : Progress) : Row := ⟨a.id, a.name, p.status, p.message, p.detail⟩

/-- A row as a value. -/
def Row.toValue (r : Row) : Value :=
  .object ([("id", .text r.id), ("display_name", .text r.name), ("status", .text r.status.text),
    ("message", .text r.message)] ++ optionalMember "detail" (r.detail.map .text))

namespace View

/-- What is shown of a run, a roster and a journal, with at most `tail` log lines. -/
def project (run : Run) (roster : Roster) (journal : Journal) (tail : Nat) : View where
  lifecycle := run.lifecycle
  epoch := run.epoch
  rows := roster.rows.map fun e => Row.of e.1 e.2
  counters := .tally (roster.rows.map (·.2.status))
  logTail := journal.tail tail
  logLength := journal.size
  logEvicted := journal.evicted

/-- The first row with an id. -/
def row? (v : View) (id : String) : Option Row := v.rows.find? (·.id == id)

/-- Whether nothing runs. -/
def isIdle (v : View) : Bool := v.lifecycle.isIdle

/-- A view as a value. -/
def toValue (v : View) : Value :=
  .object [("lifecycle", .text v.lifecycle.text), ("epoch", .nat v.epoch),
    ("rows", .array (v.rows.map Row.toValue)), ("counters", v.counters.toValue),
    ("log_tail", .array (v.logTail.map LogEntry.toValue)), ("log_len", .nat v.logLength),
    ("log_evicted", .nat v.logEvicted)]

end View

end Overseer.Monitor
