import Overseer.Host.Environment
import Overseer.Json.Record
import Overseer.Wire.Frame

/-!
# Settings of the connection to the engine

Where the engine listens, who connects, how long an answer may take and how long the pauses between
attempts may get. All settings have defaults.
-/

namespace Overseer.Engine

open Overseer.Json Overseer.Host

/-- The settings of a connection; times are in milliseconds. -/
structure Settings where
  socket : String
  client : String
  /-- How long an answer may take. -/
  requestTimeout : Nat
  /-- The longest pause between attempts to connect. -/
  reconnectLimit : Nat
  /-- The longest frame in bytes. -/
  frameLimit : Nat
  deriving DecidableEq, Repr

namespace Settings

/-- The socket unless something else is said. -/
def defaultSocket (env : Environment) : String :=
  match env.filled? "XDG_RUNTIME_DIR" with
  | some dir => Path.join (Path.join dir "fleet") "engine.sock"
  | none => Path.join env.temporary "fleet-engine.sock"

/-- The settings unless something else is said. -/
def default (env : Environment) (client : String) : Settings :=
  ⟨defaultSocket env, client, 5000, 10000, Wire.defaultFrameLimit⟩

/-- How long an answer may take, at least a millisecond. -/
def patience (s : Settings) : Nat := max s.requestTimeout 1

/-- The longest pause between attempts, at least a second. -/
def longestPause (s : Settings) : Nat := max s.reconnectLimit 1000

/-- The fields of the settings. -/
def shape : Shape Settings where
  fields := [
    field ["socket_path"] false readText fun v r => { r with socket := v },
    field ["client_id"] false readText fun v r => { r with client := v },
    field ["request_timeout_ms"] false (readNat 64) fun v r => { r with requestTimeout := v },
    field ["reconnect_max_ms"] false (readNat 64) fun v r => { r with reconnectLimit := v },
    field ["max_frame_bytes"] false (readNat 64) fun v r => { r with frameLimit := v }]
  other := none

/-- Reads settings. -/
def read (defaults : Settings) : Decoder Settings := shape.read defaults

/-- Settings as a value. -/
def toValue (s : Settings) : Value :=
  .object [("socket_path", .text s.socket), ("client_id", .text s.client),
    ("request_timeout_ms", .nat s.requestTimeout), ("reconnect_max_ms", .nat s.reconnectLimit),
    ("max_frame_bytes", .nat s.frameLimit)]

end Settings

end Overseer.Engine
