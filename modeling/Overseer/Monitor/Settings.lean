import Overseer.Json.Record
import Overseer.Time.Span

/-!
# Settings of a monitor

How often the engine is asked, how long a stop may take and how much of the log is kept. All
settings have defaults.
-/

namespace Overseer.Monitor

open Overseer.Json

/-- The settings of a monitor; times are in milliseconds. -/
structure Settings where
  /-- The pause between two questions for the status. -/
  pollInterval : Nat
  stopTimeout : Nat
  logCapacity : Nat
  viewTail : Nat
  /-- How many commands may wait. -/
  commandCapacity : Nat
  deriving DecidableEq, Repr

namespace Settings

/-- The settings unless something else is said. -/
def default : Settings := ⟨2000, 10000, 5000, 200, 64⟩

instance : Inhabited Settings := ⟨default⟩

/-- The shortest pause between two questions. -/
def leastPollInterval : Nat := 50

/-- The pause that is kept between two questions. -/
def pollPeriod (s : Settings) : Nat := max s.pollInterval leastPollInterval

/-- The fields of the settings. -/
def shape : Shape Settings where
  fields := [
    field ["poll_interval_ms"] false (readNat 64) fun v r => { r with pollInterval := v },
    field ["stop_timeout_ms"] false (readNat 64) fun v r => { r with stopTimeout := v },
    field ["log_capacity"] false (readNat 64) fun v r => { r with logCapacity := v },
    field ["view_log_tail"] false (readNat 64) fun v r => { r with viewTail := v },
    field ["command_queue_capacity"] false (readNat 64)
      fun v r => { r with commandCapacity := v }]
  other := none

/-- Reads settings. -/
def read : Decoder Settings := shape.read default

/-- Settings as a value. -/
def toValue (s : Settings) : Value :=
  .object [("poll_interval_ms", .nat s.pollInterval), ("stop_timeout_ms", .nat s.stopTimeout),
    ("log_capacity", .nat s.logCapacity), ("view_log_tail", .nat s.viewTail),
    ("command_queue_capacity", .nat s.commandCapacity)]

end Settings

end Overseer.Monitor
