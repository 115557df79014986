import Overseer.Batch.Account
import Overseer.Host.File
import Overseer.Monitor.Error

/-!
# The wallet file

A JSON list of accounts. Keys and other secrets in it are passed over. An account without a name is
shown by its id.
-/

namespace Overseer.Console

open Overseer.Batch Overseer.Host Overseer.Json Overseer.Monitor Overseer.Text

namespace Wallets

/-- An account that has a name. -/
def named (a : Account) : Account := if blank a.name then { a with name := a.id } else a

/-- The accounts that a text lists. -/
def parse (text : String) : Result (List Account) :=
  if blank text then .ok []
  else ((readList Account.read).readDocument (Utf8.encode text)).map (·.map named)

/-- Why a wallet file yields no accounts. -/
inductive Failure where
  /-- It cannot be read as text. -/
  | unreachable (why : String)
  /-- It is no list of accounts. -/
  | invalid (why : ReadError)
  deriving DecidableEq, Repr

/-- Reads a wallet file; without a file there are no accounts. -/
def read (file : FileContent) : Except Failure (List Account) :=
  match file.text with
  | .error why => .error (.unreachable why)
  | .ok none => .ok []
  | .ok (some text) => (parse text).mapError .invalid

/-- A failure to read the file at `path` as the monitor reports it. -/
def Failure.toSourceError (path : String) : Failure → SourceError
  | .unreachable why => .unreachable (path ++ ": " ++ why)
  | .invalid why => .invalid (path ++ ": " ++ why.message)

end Wallets

end Overseer.Console
