import Overseer.Console.Exit
import Overseer.Console.Follow
import Overseer.Engine.Exchange
import Overseer.Monitor.Station

/-!
# A session of the console

A command at work, with the client of the engine and, for a run, the monitor. A session is a
composition of three parties that send each other messages: the client (`exchange`), the monitor
(`station`) and the command itself (`stage`). `step` says what a move of a party does; in which
order they move is left open. `turn` gives each of them a turn, `settle` goes on until nobody has
anything to do, and `advance` moves the clock from timer to timer.
-/

namespace Overseer.Console

open Overseer.Batch Overseer.Host Overseer.Monitor Overseer.Time

/-- What the command waits for. -/
inductive Stage where
  /-- For the connection, to do something. -/
  | connecting (task : Task)
  /-- For the engine's status, of which one kind or all is listed. -/
  | reading (only : Option Status)
  /-- For the engine's answer to a stop. -/
  | stopping
  /-- For the accounts. -/
  | loading
  /-- For the start of the run. -/
  | starting
  /-- For the end of the run. -/
  | following
  /-- For nothing: the run is over, and what is left of the log is taken. -/
  | draining
  /-- For nothing: what came of a stop is told. -/
  | parting
  /-- For nothing: the final view is asked for. -/
  | asking
  /-- For the final view. -/
  | closing
  /-- For nothing any more. -/
  | ended (e : Exit)
  deriving DecidableEq, Repr

/-- What comes in for a command. -/
inductive Mail where
  /-- The connection, or that there will be none. -/
  | connected (r : Except Engine.ConnectError Unit)
  | answered (r : Engine.Response)
  | replied (r : Reply)

/-- What is seen of a session. -/
inductive Output where
  | line (l : Line)
  | sight (s : Engine.Sight)

/-- A call of the monitor that is out. -/
structure Errand where
  /-- The caller's number with the client. -/
  caller : Nat
  number : Nat
  call : Call

/-- A session: one invocation of the console with its client, its monitor and the engine. -/
structure Session where
  config : Config
  /-- The wallet file. -/
  wallets : FileContent
  exchange : Engine.Exchange
  station : Station
  /-- What the command waits for. -/
  stage : Stage
  /-- How it follows a run. -/
  follow : Follow
  /-- What came in for the command. -/
  mail : List Mail
  /-- The calls of the monitor that are out. -/
  errands : List Errand
  /-- The number of the next caller of the client. -/
  next : Nat

namespace Session

/-- How long the command waits for the connection, in milliseconds. -/
def connectPatience : Nat := 5000

/-- The number of the command itself among the callers of the client. -/
def self : Nat := 0

/-- The number of the command among the callers of the monitor. -/
def asker : Nat := 1

/-- The number of the request to stop among the callers of the monitor. -/
def stopper : Nat := 2

/-- Whether the command is at its end. -/
def exit? (s : Session) : Option Exit :=
  match s.stage with
  | .ended e => some e
  | _ => none

/-- What is printed. -/
def say (text : String) : Output := .line (.text text)

/-! ### Messages between the parties -/

/-- What a call returns with, once the engine answered. -/
def returnOf (c : Call) (r : Engine.Response) : Return :=
  match c with
  | .load caller => .loaded caller (.ok [])
  | .start caller epoch _ => .started caller epoch (r.map fun _ => ())
  | .stop epoch => .stopped epoch (r.map fun _ => ())
  | .poll epoch scheduled => .polled epoch scheduled (r.map Engine.Answer.snapshot)

/-- What the engine is asked for by a call; nothing if the call is not for the engine. -/
def requestOf : Call → Option Engine.Request
  | .load _ => none
  | .start _ _ params => some (.start params)
  | .stop _ => some .stop
  | .poll epoch _ => some (.status epoch)

/-- Takes what the monitor says to the command. -/
def hear (s : Session) : Monitor.Notice → Session
  | .replied caller r =>
    if caller = stopper then
      match r with
      | .stopped how => { s with follow := { s.follow with outcome := some (.ok how) } }
      | .error e => { s with follow := { s.follow with outcome := some (.error e) } }
      | _ => s
    else { s with mail := s.mail ++ [.replied r] }
  | .logged e => { s with follow := s.follow.send e }
  | .published => { s with follow := s.follow.publish }
  | .called .. | .unsubscribed => s

/-- A call of the monitor returns. -/
def giveBack (s : Session) (e : Errand) (r : Return) : Session :=
  let out := (s.station.withdraw e.call.kind e.number).giveBack r
  out.2.foldl hear { s with station := out.1 }

/-- The engine answered a caller of the client. -/
def answered (s : Session) (caller : Nat) (r : Engine.Response) : Session :=
  match s.errands.find? (·.caller == caller) with
  | some e =>
    { s with errands := s.errands.filter (·.caller != caller) }.giveBack e (returnOf e.call r)
  | none => { s with mail := s.mail ++ [.answered r] }

/-- Takes what happens at the client. -/
def takeHappening (s : Session) : Engine.Happening → Session × List Output
  | .engine sight => (s, [.sight sight])
  | .client (.answered caller r) => (s.answered caller r, [])
  | .client (.watched _ r) => ({ s with mail := s.mail ++ [.connected r] }, [])
  | .client (.logged _ e) => ({ s with station := (s.station.emit e).1 }, [])
  | .client _ => (s, [])

/-- Takes all that happens at the client. -/
def takeHappenings (s : Session) : List Engine.Happening → Session × List Output
  | [] => (s, [])
  | h :: rest =>
    let one := s.takeHappening h
    let more := one.1.takeHappenings rest
    (more.1, one.2 ++ more.2)

/-- Lets something happen to the client. -/
def prompt (s : Session) (e : Engine.Event) : Session × List Output :=
  let out := s.exchange.prompt e
  { s with exchange := out.1 }.takeHappenings out.2

/-- Asks the engine for something, as the caller `caller`. -/
def askEngine (s : Session) (caller : Nat) (r : Engine.Request) : Session × List Output :=
  s.prompt (.ask caller r)

/-- What the wallet file holds, as the monitor gets it. -/
def source (s : Session) : Except SourceError (List Account) :=
  (Wallets.read s.wallets).mapError (·.toSourceError s.config.wallets)

/-- Carries out a call of the monitor: the accounts come from the wallet file at once, all else from
the engine. -/
def place (s : Session) (number : Nat) (c : Call) : Session × List Output :=
  match c, requestOf c with
  | .load caller, _ => (s.giveBack ⟨self, number, c⟩ (.loaded caller s.source), [])
  | _, some r =>
    let errand : Errand := ⟨s.next, number, c⟩
    { s with errands := s.errands ++ [errand], next := s.next + 1 }.askEngine s.next r
  | _, none => (s, [])

/-- Takes what is seen of the monitor. -/
def takeNotice (s : Session) (n : Monitor.Notice) : Session × List Output :=
  match n with
  | .called number c => s.place number c
  | _ => (s.hear n, [])

/-- Takes all that is seen of the monitor. -/
def takeNotices (s : Session) : List Monitor.Notice → Session × List Output
  | [] => (s, [])
  | n :: rest =>
    let one := s.takeNotice n
    let more := one.1.takeNotices rest
    (more.1, one.2 ++ more.2)

/-- Asks the monitor for something, as the caller `caller`. -/
def askMonitor (s : Session) (caller : Nat) (r : Monitor.Request) : Session × List Output :=
  let out := s.station.ask caller r
  { s with station := out.1 }.takeNotices out.2

/-! ### The command -/

/-- The command ends, and with it the monitor. The client is told that nobody else will call, and is
gone as soon as no call is out. -/
def finish (s : Session) (e : Exit) (said : List Output) : Session × List Output :=
  let gone := { s with stage := .ended e, mail := [], station := { s.station with alive := false } }
  let freed := gone.prompt .release
  let left := freed.1.prompt .retire
  (left.1, said ++ (freed.2 ++ left.2))

/-- Begins what was to be done once there is a connection. -/
def setOut (s : Session) : Task → Session × List Output
  | .run filter =>
    let out := { s with stage := .loading, follow := .fresh filter }.prompt .subscribe
    let asked := out.1.askMonitor asker .load
    (asked.1, out.2 ++ asked.2)
  | .status only => { s with stage := .reading only }.askEngine self (.status 0)
  | .stop => { s with stage := .stopping }.askEngine self .stop
  | .accounts => s.finish .done []

/-- What the wallet file lists, or nothing if it cannot be read. -/
def listed (s : Session) : List Account :=
  match Wallets.read s.wallets with
  | .ok accounts => accounts
  | .error _ => []

/-- The accounts are loaded: from here on the log is heard. -/
def loaded (s : Session) (accounts : List Account) : Session × List Output :=
  let out := { s with stage := .starting, follow := .fresh s.follow.filter }.askMonitor asker
    (.start s.config.start)
  (out.1, say ("loaded " ++ toString accounts.length ++ " wallets") :: out.2)

/-- The command takes what came in for it. -/
def open_ (s : Session) (m : Mail) : Session × List Output :=
  match s.stage, m with
  | .connecting task, .connected (.ok _) => s.setOut task
  | .connecting _, .connected (.error e) => s.finish (.failed (.unreachable e)) []
  | .reading only, .answered (.ok a) =>
    s.finish .done [say (statusTable a.snapshot s.listed only)]
  | .reading _, .answered (.error e) => s.finish (.failed (.status e)) []
  | .stopping, .answered (.ok _) => s.finish .done [say "stop requested"]
  | .stopping, .answered (.error e) => s.finish (.failed (.stop e)) []
  | .loading, .replied (.accounts l) => s.loaded l
  | .loading, .replied (.error e) => s.finish (.failed (.load e)) []
  | .starting, .replied (.epoch n) =>
    ({ s with stage := .following, follow := { s.follow with epoch := n } }, [])
  | .starting, .replied (.error .noAccounts) =>
    s.finish .done [say ("no wallets registered in " ++ s.config.wallets)]
  | .starting, .replied (.error e) => s.finish (.failed (.start e)) []
  | .closing, .replied (.view v) => s.finish .done [say (summaryLine v)]
  | .closing, .replied (.error e) => s.finish (.failed (.monitor e)) []
  | _, _ => (s, [])

/-- The command takes the next thing that came in for it. -/
def read (s : Session) : Option (Session × List Output) :=
  match s.mail with
  | m :: rest => some ({ s with mail := rest }.open_ m)
  | [] => none

/-- Shows the latest view. The last one of the run ends the following of it. -/
def look (s : Session) : Option (Session × List Output) :=
  let v := s.station.keeper.published
  (s.follow.look v).map fun out =>
    let stage := if s.follow.last v then .draining else s.stage
    ({ s with follow := out.1, stage := stage }, out.2.map .line)

/-- Takes the next entry of what is left of the log. -/
def drain (s : Session) : Session × List Output :=
  let out := s.follow.drain
  match out.2 with
  | some told => ({ s with follow := out.1 }, told.map .line)
  | none => ({ s with follow := out.1, stage := .parting }, [])

/-- Tells what came of a stop, if it is known by now. -/
def part (s : Session) : Session × List Output :=
  let out := s.follow.report.getD (s.follow, [])
  ({ s with follow := out.1, stage := .asking }, out.2.map .line)

/-- Asks for the final view. -/
def conclude (s : Session) : Session × List Output :=
  { s with stage := .closing }.askMonitor asker .view

/-- The session after the command did something while it follows a run. -/
def followed (s : Session) (out : Follow × List Line) : Session × List Output :=
  ({ s with follow := out.1 }, out.2.map .line)

/-- Somebody interrupts the command. That stops the run that it follows. -/
def interrupt (s : Session) : Session × List Output :=
  match s.stage with
  | .following =>
    let out := s.follow.interrupt
    let s := { s with follow := out.1 }
    if out.2 then
      let asked := s.askMonitor stopper .stop
      (asked.1, say "stopping..." :: asked.2)
    else (s, [])
  | _ => (s, [])

/-! ### Moves -/

/-- What happens next in a session. -/
inductive Move where
  /-- The client does what is next for it. -/
  | client
  /-- The monitor takes what is next in a branch. -/
  | monitor (b : Branch)
  /-- The command takes what came in for it. -/
  | read
  /-- The command shows the latest view. -/
  | look
  /-- The command takes what is next in the log. -/
  | hear
  /-- The command tells what came of a stop. -/
  | report
  /-- The run is over, and the command takes what is next in the log. -/
  | drain
  /-- The run is over, and the command tells what came of a stop. -/
  | part
  /-- The command asks for the final view. -/
  | conclude
  deriving DecidableEq, Repr

/-- What a move does; `none` if there is nothing to do. -/
def step (s : Session) : Move → Option (Session × List Output)
  | .client =>
    s.exchange.next.map fun out => { s with exchange := out.1 }.takeHappenings out.2
  | .monitor b =>
    (s.station.fire b).map fun out => { s with station := out.1 }.takeNotices out.2
  | .read => s.read
  | .look => if s.stage = .following then s.look else none
  | .hear => if s.stage = .following then s.follow.hear.map (s.followed ·) else none
  | .report => if s.stage = .following then s.follow.report.map (s.followed ·) else none
  | .drain => if s.stage = .draining then some s.drain else none
  | .part => if s.stage = .parting then some s.part else none
  | .conclude => if s.stage = .asking then some s.conclude else none

/-- The moves of the client. -/
def clientMoves (_ : Session) : List Move := [.client]

/-- The moves of the monitor. -/
def monitorMoves (s : Session) : List Move := s.station.branches.map .monitor

/-- The moves of the command. -/
def commandMoves (_ : Session) : List Move := [.read, .look, .hear, .report]

/-- The moves of the command when the run is over, up to the request for the final view. -/
def partingMoves (_ : Session) : List Move := [.drain, .part, .conclude]

/-! ### Turns -/

/-- Does one thing after the other. -/
def andThen (one : Session × List Output) (f : Session → Session × List Output) :
    Session × List Output :=
  ((f one.1).1, one.2 ++ (f one.1).2)

/-- Makes the first of `moves` that does something, again and again, at most `fuel` times. -/
def makeMoves (moves : Session → List Move) : Nat → Session → Session × List Output
  | 0, s => (s, [])
  | fuel + 1, s =>
    match (moves s).findSome? s.step with
    | none => (s, [])
    | some one => andThen one (makeMoves moves fuel)

/-- How many moves the monitor and the command have in a turn. -/
def turnLength : Nat := 128

/-- The client does all that it can. -/
def clientTurn (s : Session) : Session × List Output := makeMoves clientMoves s.exchange.work s

/-- The monitor has a turn. -/
def monitorTurn (s : Session) : Session × List Output := makeMoves monitorMoves turnLength s

/-- The command has a turn. Once it has seen the last view it goes on to the request for the final
one. -/
def commandTurn (s : Session) : Session × List Output :=
  andThen (makeMoves commandMoves turnLength s) fun s =>
    makeMoves partingMoves (s.follow.log.waiting.length + 3) s

/-- Each party has its turn, and the client a second one for what the monitor asks of it. -/
def turn (s : Session) : Session × List Output :=
  andThen (andThen (andThen s.clientTurn monitorTurn) clientTurn) commandTurn

/-- Whether somebody has something to do. -/
def busy (s : Session) : Bool :=
  ((clientMoves s ++ monitorMoves s ++ commandMoves s ++ partingMoves s).findSome? s.step).isSome

/-- Takes turns until nobody has anything to do, at most `fuel` of them. -/
def settleFor : Nat → Session → Session × List Output
  | 0, s => (s, [])
  | fuel + 1, s => if s.busy then andThen s.turn (settleFor fuel) else (s, [])

/-- How many turns there may be before nobody has anything to do. -/
def work (s : Session) : Nat :=
  s.exchange.work + s.station.work + s.mail.length + s.follow.log.waiting.length + 16

/-- Takes turns until nobody has anything to do. -/
def settle (s : Session) : Session × List Output := settleFor s.work s

/-! ### Time -/

/-- When the next timer is due. -/
def nextTimer (s : Session) : Option Nat :=
  (s.exchange.client.nextTimer.toList ++ s.station.nextTimer.toList).min?

/-- The clock is at `t`, but no earlier than it was. -/
def clockAt (s : Session) (t : Nat) : Session :=
  { s with
    exchange := s.exchange.pass (t - s.exchange.client.now)
    station := { s.station with now := max s.station.now t } }

/-- Moves the clock to `target`, timer by timer, at most `fuel` of them. The timers of the monitor
come first. -/
def advanceFor (target : Nat) : Nat → Session → Session × List Output
  | 0, s => (s.clockAt target, [])
  | fuel + 1, s =>
    match s.nextTimer with
    | some t =>
      if t ≤ target then
        andThen (andThen (s.clockAt t).monitorTurn settle) (advanceFor target fuel)
      else (s.clockAt target, [])
    | none => (s.clockAt target, [])

/-- Moves the clock by so many milliseconds. -/
def advance (s : Session) (ms : Nat) : Session × List Output :=
  let retries := ms / Engine.Backoff.first
  let ticks := ms / s.config.monitor.pollPeriod
  advanceFor (s.exchange.client.now + ms) (retries + 2 * ticks + s.errands.length + 8) s

/-! ### The beginning -/

/-- A session before its first step. -/
def ready (c : Config) (wallets : FileContent) (task : Task) (origin : Moment) (listening : Bool)
    (ids : Engine.IdSource := .counted) : Session :=
  ⟨c, wallets, .initial c.engine origin listening ids, .initial c.monitor origin,
    .connecting task, .fresh [], [], [], 1⟩

/-- Begins a task that needs no engine at once, and any other with the search for the engine. -/
def begin (c : Config) (wallets : FileContent) (task : Task) (origin : Moment) (listening : Bool)
    (ids : Engine.IdSource := .counted) : Session × List Output :=
  let s := ready c wallets task origin listening ids
  match task with
  | .accounts =>
    match Wallets.read wallets with
    | .ok l => s.finish .done [say (accountsText l)]
    | .error e => s.finish (.failed (.wallets c.wallets e)) []
  | _ => s.prompt (.watch self connectPatience)

/-- Begins what a command line asks for, with the files of a directory. -/
def launch (args : List String) (env : Environment) (client : String)
    (files : String → FileContent) (origin : Moment) (listening : Bool)
    (ids : Engine.IdSource := .counted) : Session × List Output :=
  let defaults := Config.default env client
  let ends (e : Exit) := (ready defaults .missing .accounts origin listening ids).finish e []
  match Args.parse args with
  | .error u => ends (.usage u)
  | .ok invocation =>
    let path := Config.path invocation.config env
    match Config.load defaults path (files path) with
    | .error e => ends (.failed (.config e))
    | .ok c =>
      let c := c.withEnvironment env
      begin c (files c.wallets) invocation.task origin listening ids

end Session

end Overseer.Console
