import Overseer.Console.Render
import Overseer.Monitor.Broadcast
import Overseer.Monitor.Keeper

/-!
# Following a run

What the console does while a run is under way. It shows the latest view when it has not seen it
yet, prints log lines as they come, and tells how a stop came out. Which of these comes first, when
several can, is left open. It is over with the first view in which this run has ended; what is left
of the log is taken then, entry by entry up to the first gap.
-/

namespace Overseer.Console

open Overseer.Batch Overseer.Monitor

/-- What comes of a request to stop. -/
abbrev StopResult := Except MonitorError StopOutcome

/-- What is printed. -/
inductive Line where
  /-- A text of one or more lines. -/
  | text (s : String)
  | log (e : LogEntry)
  | stopped (r : StopResult)

/-- What is said about the end of a stop, if anything is. -/
def stopText : StopResult → Option String
  | .ok .confirmed => some "engine confirmed stop"
  | .ok .timedOut => some "engine did not confirm stop in time"
  | .ok .alreadyIdle | .ok .runAborted => none
  | .error e => some ("stop failed: " ++ e.message)

/-- The text of what is printed. -/
def Line.render : Line → Option String
  | .text s => some s
  | .log e => some (logLine e.receivedAt.clock e)
  | .stopped r => stopText r

/-- What is said for log lines that were missed. -/
def missedText (n : Nat) : String := "... " ++ toString n ++ " log lines skipped"

/-- A console that follows a run. -/
structure Follow where
  /-- The log lines to print. -/
  filter : LogFilter
  epoch : Nat
  /-- What was shown. -/
  screen : Screen
  /-- Whether the latest view was not looked at yet. -/
  unseen : Bool
  log : Follower
  /-- Whether a stop was asked for. -/
  interrupted : Bool
  /-- What came of the request to stop, until it is told. -/
  outcome : Option StopResult

namespace Follow

/-- A console before a run. The views until then count as one that it has not seen. -/
def fresh (filter : LogFilter) : Follow := ⟨filter, 0, .empty, true, .fresh, false, none⟩

/-- A view is published. -/
def publish (f : Follow) : Follow := { f with unseen := true }

/-- A log entry is passed on. -/
def send (f : Follow) (e : LogEntry) : Follow := { f with log := f.log.send e }

/-- Whether a view is the last one of the run. -/
def last (f : Follow) (v : View) : Bool := v.isIdle && v.epoch == f.epoch

/-- Shows what is new in the latest view. -/
def look (f : Follow) (v : View) : Option (Follow × List Line) :=
  if f.unseen then
    let shown := f.screen.changes v
    some ({ f with screen := shown.1, unseen := false }, shown.2.map .text)
  else none

/-- Prints a log line if the filter allows it. -/
def entryLines (f : Follow) (e : LogEntry) : List Line := if f.filter.allows e then [.log e] else []

/-- Takes what comes next in the log. -/
def hear (f : Follow) : Option (Follow × List Line) :=
  match f.log.take? with
  | some (.entry e, log) => some ({ f with log := log }, f.entryLines e)
  | some (.missed n, log) => some ({ f with log := log }, [.text (missedText n)])
  | none => none

/-- Tells what came of the request to stop. -/
def report (f : Follow) : Option (Follow × List Line) :=
  match f.outcome with
  | some r => some ({ f with outcome := none }, [.stopped r])
  | none => none

/-- Asks for a stop, the first time only; whether it does. -/
def interrupt (f : Follow) : Follow × Bool := ({ f with interrupted := true }, !f.interrupted)

/-- Takes the next log entry when the run is over. A gap ends that as the end of the log does:
nothing is said of it, and what waits behind it is left there. -/
def drain (f : Follow) : Follow × Option (List Line) :=
  match f.log.take? with
  | some (.entry e, log) => ({ f with log := log }, some (f.entryLines e))
  | some (.missed _, log) => ({ f with log := log }, none)
  | none => (f, none)

end Follow

end Overseer.Console
