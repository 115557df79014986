import Overseer.Json.Record
import Overseer.Text.Blank
import Overseer.Decimal.Notation

/-!
# Accounts

The accounts that a batch works through. An id is a text with content, kept without the blanks
around it, or a number kept as its text.
-/

namespace Overseer.Batch

open Overseer.Json Overseer.Text Overseer.Decimal

/-- An account of a batch. -/
structure Account where
  /-- What tells accounts apart. -/
  id : String
  name : String
  deriving DecidableEq, Repr, Inhabited

/-- The text of a number that serves as an id. -/
def idOfNumber : Number → String
  | .int n => toString n
  | .double d => d.text .plain

/-- The id that a value means. -/
def idOf? : Value → Option String
  | .text s => if blank s then none else some (trim s)
  | .number n => some (idOfNumber n)
  | _ => none

/-- Reads an id. -/
def readId : Decoder String := fun m n =>
  match readValue m n with
  | .ok v =>
    match idOf? v with
    | some id => .ok id
    | none => .error .badId
  | .error e => .error e

/-- The fields of an account. -/
def Account.shape : Shape Account where
  fields := [
    field ["id", "address"] true readId fun v r => { r with id := v },
    field ["display_name", "name"] false readText fun v r => { r with name := v }]
  other := none

/-- Reads an account. -/
def Account.read : Decoder Account := shape.read ⟨"", ""⟩

/-- An account as a value. -/
def Account.toValue (a : Account) : Value :=
  .object [("id", .text a.id), ("display_name", .text a.name)]

end Overseer.Batch
