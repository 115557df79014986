import Overseer.Console.Session

/-!
# The program

Runs a command line against the files, the environment and the clock of the machine. No engine can
be reached from here, as there are no local sockets to reach it by: a command that needs one gives
up when its patience is over.
-/

namespace Overseer

open Overseer.Console Overseer.Host Overseer.Time

/-- The variables that the program looks at. -/
def knownVariables : List String :=
  ["XDG_RUNTIME_DIR", "TMPDIR", "FLEET_CONFIG", "FLEET_ENGINE_SOCK", "FLEET_WALLETS",
    "XDG_CONFIG_HOME", "XDG_DATA_HOME", "HOME"]

/-- The environment. -/
def readEnvironment : IO Environment := do
  let found ← knownVariables.filterMapM fun name => do
    return (← IO.getEnv name).map fun v => (name, v)
  return Table.ofList found

/-- What there is under a path. -/
def readPath (path : String) : IO FileContent := do
  try
    return .bytes (← IO.FS.readBinFile path).toList
  catch
    | .noFileOrDirectory .. => return .missing
    | .inappropriateType .. => return .unreadable FileContent.isDirectory
    | e => return .unreadable (toString e)

/-- The name under which the program introduces itself: it ends in the number of its process, where
the machine tells that. -/
def clientName : IO String := do
  try
    let stat ← IO.FS.readFile "/proc/self/stat"
    return "fleet-console-" ++ String.ofList (stat.toList.takeWhile Char.isDigit)
  catch _ => return "fleet-console-0"

/-- How the program is called. -/
def usageHint : String :=
  "Usage: fleet-console [--config PATH] (run [--show LIST] | status [--only STATE] | stop | accounts)"

/-- Prints what is seen of a session. -/
def printAll (out : List Output) : IO Unit :=
  out.forM fun
    | .line l => (l.render.toList).forM IO.println
    | .sight _ => return

/-- Tells how a command ended, and gives the exit code. -/
def conclude : Exit → IO UInt32
  | .done => return 0
  | .usage .help => do
    IO.println usageHint
    return 0
  | .usage _ => do
    IO.eprintln usageHint
    return 2
  | .failed f => do
    match f.chain with
    | [] => return 1
    | what :: [] => IO.eprintln ("Error: " ++ what)
    | what :: whys =>
      IO.eprintln ("Error: " ++ what ++ "\n\nCaused by:")
      whys.forM fun why => IO.eprintln ("    " ++ why)
    return 1

/-- Goes on with a session from timer to timer until it ends. -/
partial def follow (s : Session) : IO UInt32 := do
  match s.exit?, s.nextTimer with
  | some e, _ => conclude e
  | none, none => return 1
  | none, some t =>
    let ms := t - s.exchange.client.now
    IO.sleep ms.toUInt32
    let next := s.advance ms
    printAll next.2
    follow next.1

/-- The contents of the files that a command line can ask for. -/
def readFiles (args : List String) (env : Environment) (client : String) :
    IO (String → FileContent) := do
  let asked := (Args.parse args).toOption.bind (·.config)
  let path := Config.path asked env
  let configFile ← readPath path
  let config := (Config.load (.default env client) path configFile).toOption
  let wallets := ((config.getD (.default env client)).withEnvironment env).wallets
  let walletFile ← readPath wallets
  return fun p => if p = path then configFile else if p = wallets then walletFile else .missing

end Overseer

/-- Runs a command line. -/
def main (args : List String) : IO UInt32 := do
  let env ← Overseer.readEnvironment
  let client ← Overseer.clientName
  let files ← Overseer.readFiles args env client
  let begun := Overseer.Console.Session.launch args env client files ⟨0, 0⟩ false
  let settled := begun.1.settle
  Overseer.printAll (begun.2 ++ settled.2)
  Overseer.follow settled.1
