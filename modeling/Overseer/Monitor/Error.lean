import Overseer.Time.Span

/-!
# What can go wrong

Failures of the source of accounts, of the engine, and of the monitor itself, with their wording.
-/

namespace Overseer.Monitor

open Overseer.Time

/-- Why the accounts could not be read. -/
inductive SourceError where
  | unreachable (why : String)
  /-- What it holds makes no accounts. -/
  | invalid (why : String)
  deriving DecidableEq, Repr

/-- Why the engine did not do what it was asked. -/
inductive RemoteError where
  /-- The message or its answer did not get through. -/
  | transport (why : String)
  | rejected (command why : String)
  | timeout (after : Span)
  deriving DecidableEq, Repr

/-- Why the monitor did not do what it was asked. -/
inductive MonitorError where
  | sourceUnavailable (why : String)
  | noAccounts
  /-- A run is under way. -/
  | alreadyRunning
  /-- The engine did not do its part. -/
  | remoteFailed (why : String)
  /-- The monitor is gone. -/
  | closed
  deriving DecidableEq, Repr

/-- The wording of a failure of the source. -/
def SourceError.message : SourceError → String
  | .unreachable why => "unreachable: " ++ why
  | .invalid why => "invalid entity data: " ++ why

/-- The wording of a failure of the engine. -/
def RemoteError.message : RemoteError → String
  | .transport why => "transport: " ++ why
  | .rejected command why => "engine rejected " ++ command ++ ": " ++ why
  | .timeout after => "no reply within " ++ after.text

/-- The wording of a failure of the monitor. -/
def MonitorError.message : MonitorError → String
  | .sourceUnavailable why => "entity source unavailable: " ++ why
  | .noAccounts => "no entities loaded"
  | .alreadyRunning => "a run is already active"
  | .remoteFailed why => "remote request failed: " ++ why
  | .closed => "monitor is shut down"

/-- What a failure of the source means to callers of the monitor. -/
def MonitorError.ofSource (e : SourceError) : MonitorError := .sourceUnavailable e.message

/-- What a failure of the engine means to callers of the monitor. -/
def MonitorError.ofRemote (e : RemoteError) : MonitorError := .remoteFailed e.message

end Overseer.Monitor
