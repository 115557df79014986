import Overseer.Json.Number
import Overseer.Table

/-!
# Values

A value by its meaning: numbers are evaluated and an object holds one member per key, the last one
written, in ascending order of keys.
-/

namespace Overseer.Json

open Overseer.Decimal

/-- Why a document does not say what is expected of it. -/
inductive ReadError where
  /-- The text is no JSON. -/
  | broken
  /-- Arrays and objects are nested too deeply. -/
  | tooDeep
  /-- A text is no sequence of characters. -/
  | badText
  | outOfRange
  /-- A value is of another kind than wanted. -/
  | mismatch
  /-- A field without a default is missing. -/
  | missing (field : String)
  | repeated (field : String)
  /-- An array has more items than the record has fields. -/
  | spareItems
  /-- A name is none of those known. -/
  | unknownName
  /-- An id is neither a text with content nor a number. -/
  | badId
  /-- A point in time is not written as one. -/
  | badTime
  deriving DecidableEq, Repr

/-- The wording of a reading error. -/
def ReadError.message : ReadError → String
  | .broken => "malformed JSON"
  | .tooDeep => "nested too deeply"
  | .badText => "invalid text"
  | .outOfRange => "number out of range"
  | .mismatch => "unexpected kind of value"
  | .missing field => "missing field " ++ field
  | .repeated field => "repeated field " ++ field
  | .spareItems => "too many items"
  | .unknownName => "unknown name"
  | .badId => "expected non-empty string or number for id"
  | .badTime => "invalid time"

/-- The result of reading. -/
abbrev Result (α : Type) := Except ReadError α

/-- A value. -/
inductive Value where
  | null
  | bool (b : Bool)
  | number (n : Number)
  | text (s : String)
  | array (items : List Value)
  /-- An object with its members in order. -/
  | object (members : List (String × Value))
  deriving Inhabited

namespace Value

/-- The natural number `n`. -/
def nat (n : Nat) : Value := .number (.int n)

/-- The integer `n`. -/
def int (n : Int) : Value := .number (.int n)

/-- The value under a key of an object. -/
def get? (v : Value) (key : String) : Option Value :=
  match v with
  | .object members => Table.find key members
  | _ => none

mutual

/-- The value that a node means, where `room` levels of nesting are left. -/
def ofNode (room : Nat) : Node → Result Value
  | .null => .ok .null
  | .bool b => .ok (.bool b)
  | .number l =>
    match l.number? with
    | some n => .ok (.number n)
    | none => .error .outOfRange
  | .double d => .ok (if d.special then .null else .number (.double d))
  | .text (some s) => .ok (.text s)
  | .text none => .error .badText
  | .array items => if room = 0 then .error .tooDeep else ofItems (room - 1) items []
  | .object members => if room = 0 then .error .tooDeep else ofMembers (room - 1) members []
  | .broken => .error .broken

/-- The array of items behind those of `done`, which is kept last first. -/
def ofItems (room : Nat) : List Node → List Value → Result Value
  | [], done => .ok (.array done.reverse)
  | n :: rest, done =>
    match ofNode room n with
    | .ok v => ofItems room rest (v :: done)
    | .error e => .error e

/-- The object of members behind those of `done`, which is in ascending order of keys. -/
def ofMembers (room : Nat) : List (Option String × Node) → List (String × Value) → Result Value
  | [], done => .ok (.object done)
  | m :: rest, done =>
    match m.1, ofNode room m.2 with
    | some key, .ok v => ofMembers room rest (Table.insertEntry key v done)
    | none, _ => .error .badText
    | some _, .error e => .error e

end

end Value

end Overseer.Json
