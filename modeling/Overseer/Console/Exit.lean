import Overseer.Console.Args
import Overseer.Console.Config
import Overseer.Engine.Error

/-!
# How a command ends

A command succeeds, or its command line makes no sense, or something fails on the way. A failure is
told as a chain of texts, from what could not be done to why.
-/

namespace Overseer.Console

open Overseer.Engine Overseer.Monitor

/-- Why a command fails. -/
inductive Failure where
  | config (e : ConfigError)
  | unreachable (e : ConnectError)
  /-- The monitor did not get the accounts. -/
  | load (e : MonitorError)
  | start (e : MonitorError)
  /-- The engine did not say how far it is. -/
  | status (e : RemoteError)
  /-- The engine did not take the request to stop. -/
  | stop (e : RemoteError)
  /-- The wallet file cannot be listed. -/
  | wallets (path : String) (e : Wallets.Failure)
  /-- The monitor went away. -/
  | monitor (e : MonitorError)
  deriving DecidableEq, Repr

/-- What could not be done, why, and so on. -/
def Failure.chain : Failure → List String
  | .config (.unreadable path why) => [(ConfigError.unreadable path why).message, why]
  | .config (.malformed path) => [(ConfigError.malformed path).message]
  | .unreachable e => ["automation engine is not reachable", e.message]
  | .load e => ["failed to load wallets", e.message]
  | .start e => ["engine refused to start the batch", e.message]
  | .status e => ["status request failed", e.message]
  | .stop e => ["stop request failed", e.message]
  | .wallets path e => ["failed to read " ++ path, (e.toSourceError path).message]
  | .monitor e => [e.message]

/-- How a command ends. -/
inductive Exit where
  | done
  /-- Its command line makes no sense, or asks for help. -/
  | usage (u : Usage)
  | failed (f : Failure)
  deriving DecidableEq, Repr

end Overseer.Console
