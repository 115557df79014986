import Overseer.Batch.Params
import Overseer.Console.Wallets
import Overseer.Engine.Settings
import Overseer.Monitor.Settings
import Overseer.Toml.Reader

/-!
# Configuration of the console

Where the wallet file is, how the monitor works, how the engine is reached and with which parameters
a run starts. A configuration file may set any part of it, and the environment has the last word on
paths.
-/

namespace Overseer.Console

open Overseer.Batch Overseer.Host Overseer.Json Overseer.Text

/-- The configuration. -/
structure Config where
  /-- The wallet file. -/
  wallets : String
  monitor : Monitor.Settings
  engine : Engine.Settings
  /-- The parameters of a run. -/
  start : Params

/-- Why there is no configuration. -/
inductive ConfigError where
  | unreadable (path why : String)
  | malformed (path : String)
  deriving DecidableEq, Repr

/-- The wording of a failure. -/
def ConfigError.message : ConfigError → String
  | .unreadable path _ => "failed to read config " ++ path
  | .malformed path => "failed to parse config " ++ path

namespace Config

/-- The wallet file unless something else is said. -/
def defaultWallets (env : Environment) : String :=
  ["fleet", "wallets.json"].foldl Path.join (env.userDir "XDG_DATA_HOME" [".local", "share"])

/-- The configuration unless something else is said. -/
def default (env : Environment) (client : String) : Config :=
  ⟨defaultWallets env, .default, .default env client, .empty⟩

/-- The configuration file: the one asked for, the one that the environment names, or the one
among the configuration files of the user. -/
def path (asked : Option String) (env : Environment) : String :=
  match asked, env.filled? "FLEET_CONFIG" with
  | some path, _ => path
  | none, some path => path
  | none, none =>
    ["fleet", "config.toml"].foldl Path.join (env.userDir "XDG_CONFIG_HOME" [".config"])

/-- The fields of a configuration. -/
def shape (defaults : Config) : Shape Config where
  fields := [
    field ["wallets_path"] false readText fun v r => { r with wallets := v },
    field ["monitor"] false Monitor.Settings.read fun v r => { r with monitor := v },
    field ["engine"] false (Engine.Settings.read defaults.engine)
      fun v r => { r with engine := v },
    field ["start"] false Params.read fun v r => { r with start := v }]
  other := none

/-- Reads a configuration out of the text of a file. -/
def parse (defaults : Config) (text : String) : Option Config :=
  (Toml.read text).bind fun n => ((shape defaults).read defaults .settings n).toOption

/-- Reads a configuration file; without a file everything has its default. -/
def load (defaults : Config) (path : String) (file : FileContent) : Except ConfigError Config :=
  match file.text with
  | .error why => .error (.unreadable path why)
  | .ok none => .ok defaults
  | .ok (some text) =>
    match parse defaults text with
    | some c => .ok c
    | none => .error (.malformed path)

/-- The configuration with the paths that the environment names. -/
def withEnvironment (c : Config) (env : Environment) : Config :=
  { c with
    engine := { c.engine with socket := (env.filled? "FLEET_ENGINE_SOCK").getD c.engine.socket }
    wallets := (env.filled? "FLEET_WALLETS").getD c.wallets }

/-- A configuration as a value. -/
def toValue (c : Config) : Value :=
  .object [("wallets_path", .text c.wallets), ("monitor", c.monitor.toValue),
    ("engine", c.engine.toValue), ("start", c.start.toValue)]

end Config

end Overseer.Console
