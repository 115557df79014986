import Overseer.Batch.Log
import Overseer.Batch.Progress

/-!
# The command line

`[--config PATH] (run [--show SEVERITIES] | status [--only STATUS] | stop | accounts)`, where the
first option may also stand behind the command. Arguments are taken from left to right and the first
one that does not fit decides what is wrong. The value of an option is looked at when the next
option is taken, and that of the last one at the end. What stands behind a command is judged before
the last option in front of it.
-/

namespace Overseer.Console

open Overseer.Batch

/-- What is wrong with a command line, or what is asked instead of a command. -/
inductive Usage where
  /-- There is no argument at all. -/
  | nothingGiven
  | noCommand
  | unknownCommand
  | unknownArgument
  | noValue
  /-- An option has a value that takes none. -/
  | spareValue
  /-- The value of an option is none of those it may have. -/
  | badValue
  | repeatedOption
  | help
  deriving DecidableEq, Repr

/-- What to do. -/
inductive Task where
  /-- To start a run and follow it, with the log lines of the given severities. -/
  | run (filter : List Severity)
  /-- To show what the engine reports, of one status or all. -/
  | status (only : Option Status)
  | stop
  | accounts
  deriving DecidableEq, Repr

/-- A command line that makes sense. -/
structure Invocation where
  config : Option String
  task : Task
  deriving DecidableEq, Repr

namespace Args

/-- The options. -/
inductive Opt where
  | config
  /-- The severities to print. -/
  | show
  /-- The status to list. -/
  | only
  deriving DecidableEq, Repr

/-- The commands by name, with their own options. -/
def commands : List (String × Task × List (String × Opt)) :=
  [("run", .run [], [("show", .show)]), ("status", .status none, [("only", .only)]),
    ("stop", .stop, []), ("accounts", .accounts, [])]

/-- The options that stand anywhere. -/
def commonOptions : List (String × Opt) := [("config", .config)]

/-- A command line in the middle. -/
structure Draft where
  config : Option String
  task : Option Task
  /-- The options that may come. -/
  options : List (String × Opt)
  /-- The options of this command that were given. -/
  seen : List Opt
  /-- An option whose value was not looked at, with the value if it came. -/
  pending : Option (Opt × Option String)
  /-- Whether all that follows are no options. -/
  trailing : Bool

/-- The severities of a list with commas. -/
def severities (value : String) : Except Usage (List Severity) :=
  ((value.splitOn ",").mapM fun s => Severity.ofSpoken s).mapError fun _ => .badValue

/-- Stores the value of an option. -/
def Draft.store (d : Draft) (o : Opt) (value : String) : Except Usage Draft :=
  if o ≠ .show ∧ d.seen.contains o then .error .repeatedOption
  else
    let d := { d with seen := o :: d.seen, pending := none }
    match o, d.task with
    | .config, _ => if value.isEmpty then .error .noValue else .ok { d with config := some value }
    | .show, some (.run filter) =>
      (severities value).map fun more => { d with task := some (.run (filter ++ more)) }
    | .only, _ =>
      match Status.ofSpoken value with
      | .ok s => .ok { d with task := some (.status (some s)) }
      | .error _ => .error .badValue
    | .show, _ => .ok d

/-- Looks at the value of the last option. -/
def Draft.settle (d : Draft) : Except Usage Draft :=
  match d.pending with
  | none => .ok d
  | some (_, none) => .error .noValue
  | some (o, some value) => d.store o value

/-- Takes an option with two dashes. -/
def Draft.option (d : Draft) (name : String) (value : Option String) : Except Usage Draft :=
  if name = "help" then
    if value.isSome then .error .spareValue else d.settle.bind fun _ => .error .help
  else
    match Table.find name d.options with
    | none => .error .unknownArgument
    | some o =>
      d.settle.bind fun d =>
        match value with
        | some v => d.store o v
        | none => .ok { d with pending := some (o, none) }

/-- The name and the value of an option with two dashes. -/
def splitOption (cs : List Char) : String × Option String :=
  let name := cs.takeWhile (· != '=')
  match cs.drop name.length with
  | _ :: value => (String.ofList name, some (String.ofList value))
  | [] => (String.ofList name, none)

/-- What an argument that belongs nowhere says about a command line. -/
def Draft.stray (d : Draft) (arg : String) : Usage :=
  if d.task.isSome then .unknownArgument
  else if d.trailing ∧ (arg = "help" ∨ (Table.find arg commands).isSome) then .unknownArgument
  else .unknownCommand

/-- A command line behind a command. -/
def Draft.behind (task : Task) (own : List (String × Opt)) : Draft :=
  ⟨none, some task, own ++ commonOptions, [], none, false⟩

/-- Puts what stands behind a command together with what stands in front of it. The configuration
file that is named last counts. -/
def Draft.join (front back : Draft) : Except Usage Draft :=
  front.settle.map fun front => { back with config := back.config <|> front.config }

/-- Takes the words behind a request for help. -/
def helpOn : List String → Usage
  | [] => .help
  | [name] =>
    if name = "help" ∨ (Table.find name commands).isSome then .help else .unknownCommand
  | _ => .unknownCommand

/-- Takes arguments in order. -/
def Draft.take : Draft → List String → Except Usage Draft
  | d, [] => d.settle
  | d, arg :: rest =>
    if d.trailing then .error (d.stray arg)
    else
      match arg.toList, d.pending with
      | ['-', '-'], _ => Draft.take { d with trailing := true } rest
      | '-' :: '-' :: cs, _ =>
        match d.option (splitOption cs).1 (splitOption cs).2 with
        | .ok d => d.take rest
        | .error e => .error e
      | '-' :: 'h' :: _, _ =>
        match d.settle with
        | .ok _ => .error .help
        | .error e => .error e
      | '-' :: _ :: _, _ => .error .unknownArgument
      | _, some (o, none) => Draft.take { d with pending := some (o, some arg) } rest
      | _, _ =>
        if d.task.isSome then .error (d.stray arg)
        else if arg = "help" then .error (helpOn rest)
        else
          match Table.find arg commands with
          | none => .error (d.stray arg)
          | some (task, own) =>
            match Draft.take (.behind task own) rest with
            | .ok back => d.join back
            | .error e => .error e

/-- Reads a command line. -/
def parse (args : List String) : Except Usage Invocation :=
  if args.isEmpty then .error .nothingGiven
  else
    match Draft.take ⟨none, none, commonOptions, [], none, false⟩ args with
    | .error e => .error e
    | .ok d =>
      match d.task with
      | some task => .ok ⟨d.config, task⟩
      | none => if d.seen.isEmpty then .error .nothingGiven else .error .noCommand

end Args

end Overseer.Console
