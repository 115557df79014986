import Overseer.Monitor.View
import Overseer.Text.Column
import Overseer.Text.Blank

/-!
# What the console prints

Log lines, counters, the accounts and what the engine reports about them. A `Screen` remembers what
it showed of earlier views and prints only what is new.
-/

namespace Overseer.Console

open Overseer.Batch Overseer.Monitor Overseer.Text

/-- An id, shortened to its first six and last four characters if it has more than thirteen. -/
def shortId (id : String) : String :=
  let cs := id.toList
  if cs.length ≤ 13 then id
  else String.ofList (cs.take 6 ++ ['.', '.', '.'] ++ cs.drop (cs.length - 4))

/-- The mark of a severity, four characters wide. -/
def severityMark : Severity → String
  | .info => "INFO"
  | .success => " OK "
  | .error => "FAIL"

/-- A log line, at a time of day. -/
def logLine (clock : String) (e : LogEntry) : String :=
  clock ++ " [" ++ severityMark e.event.severity ++ "] " ++ shortId e.event.account ++ ": " ++
    e.event.message

/-- The severities of the log lines to print; an empty list means all. -/
abbrev LogFilter := List Severity

/-- Whether a log line is to be printed. -/
def LogFilter.allows (f : LogFilter) (e : LogEntry) : Bool :=
  f.isEmpty || f.contains e.event.severity

/-- The counters on one line. -/
def countersLine (c : Counters) : String :=
  "processed " ++ toString c.processed ++ "/" ++ toString c.total ++
    " | running " ++ toString c.running ++ " | success " ++ toString c.succeeded ++
    " | failed " ++ toString c.failed ++ " | pending " ++ toString c.pending

/-- The last line about a run. -/
def summaryLine (v : View) : String :=
  "run " ++ toString v.epoch ++ " finished: " ++ countersLine v.counters ++
    if v.logEvicted = 0 then "" else
      " (" ++ toString v.logEvicted ++ " oldest log lines evicted)"

/-- The difference of successive views: what was shown of the earlier ones. -/
structure Screen where
  /-- The lifecycle of the last headline. -/
  lifecycle : Option Lifecycle
  /-- Status and message of the last line about each account. -/
  rows : Table (Status × String)

namespace Screen

/-- Nothing was shown. -/
def empty : Screen := ⟨none, .empty⟩

/-- The headline of a view. -/
def headline (v : View) : String :=
  "== run " ++ toString v.epoch ++ " is " ++ v.lifecycle.text ++ " =="

/-- The line about an account. -/
def rowLine (r : Row) : String :=
  padRight 14 (shortId r.id) ++ " " ++ padRight 8 r.status.text ++ " " ++ r.message ++
    if r.detail.isSome then " (detail received)" else ""

/-- Shows a row if its status or message is new. -/
def showRow (s : Screen) (r : Row) : Screen × List String :=
  if s.rows.get? r.id = some (r.status, r.message) then (s, [])
  else ({ s with rows := s.rows.insert r.id (r.status, r.message) }, [rowLine r])

/-- Shows rows in order. -/
def showRows (s : Screen) : List Row → Screen × List String
  | [] => (s, [])
  | r :: rest =>
    let one := s.showRow r
    let more := one.1.showRows rest
    (more.1, one.2 ++ more.2)

/-- Shows the headline if the lifecycle is new. -/
def showHeadline (s : Screen) (v : View) : Screen × List String :=
  if s.lifecycle = some v.lifecycle then (s, [])
  else ({ s with lifecycle := some v.lifecycle }, [headline v])

/-- Shows what is new in a view, and the counters if anything is. -/
def changes (s : Screen) (v : View) : Screen × List String :=
  let head := s.showHeadline v
  let body := head.1.showRows v.rows
  let lines := head.2 ++ body.2
  (body.1, if lines.isEmpty then [] else lines ++ [countersLine v.counters])

end Screen

/-- The list of accounts. -/
def accountsText (accounts : List Account) : String :=
  if accounts.isEmpty then "no wallets registered"
  else
    padRight 44 "ADDRESS" ++ " NAME\n" ++
      String.join (accounts.map fun a => padRight 44 a.id ++ " " ++ a.name ++ "\n") ++
      toString accounts.length ++ " wallets"

/-- The name of the account with an id: of several, that of the last. -/
def nameOf (accounts : List Account) (id : String) : String :=
  match accounts.reverse.find? (·.id == id) with
  | some a => a.name
  | none => "-"

/-- The line about an outcome. -/
def outcomeLine (accounts : List Account) (id : String) (o : Outcome) : String :=
  padRight 14 (shortId id) ++ " " ++ padRight 16 (nameOf accounts id) ++ " " ++
    padRight 8 o.status.text ++ " " ++ o.message

/-- The ids of a snapshot: those of listed accounts in the order of the list, then the others. -/
def tableIds (s : Snapshot) (accounts : List Account) : List String :=
  (accounts.map (·.id)).filter s.outcomes.contains ++
    s.outcomes.keys.filter fun id => !accounts.any (·.id == id)

/-- What the engine reports, with the accounts of one status only if `only` is given. -/
def statusTable (s : Snapshot) (accounts : List Account) (only : Option Status) : String :=
  let head := "engine " ++ (if s.running then "running" else "idle") ++ "\n"
  if s.outcomes.isEmpty then head ++ "no results reported"
  else
    let lines := (tableIds s accounts).filterMap fun id =>
      (s.outcomes.get? id).bind fun o =>
        if only.isSome && only != some o.status then none
        else some (outcomeLine accounts id o ++ "\n")
    trimEnd (head ++ String.join lines)

end Overseer.Console
