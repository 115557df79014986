import Overseer.Decimal.Double

/-!
# Documents as written

What a JSON text says before anything is decided about its meaning. Numbers keep their digits,
texts that are no sequence of characters are marked, members keep their order and may repeat, and a
text that breaks off or breaks a rule leaves `broken` where it does, after all that came before.
-/

namespace Overseer.Json

open Overseer.Decimal

/-- A number as written. -/
structure Literal where
  negative : Bool
  /-- The digits before the point. -/
  whole : List Nat
  /-- The digits after the point, if there is one. -/
  fraction : Option (List Nat)
  /-- Whether the exponent is negative, and its digits, if there is one. -/
  exponent : Option (Bool × List Nat)
  deriving DecidableEq, Repr

/-- A value as written. -/
inductive Node where
  | null
  | bool (b : Bool)
  /-- A number by its digits. -/
  | number (l : Literal)
  /-- A number by its value, from a format that reads numbers itself. -/
  | double (d : Double)
  /-- A text; `none` if it is not a sequence of characters. -/
  | text (s : Option String)
  | array (items : List Node)
  /-- An object with its members in order. -/
  | object (members : List (Option String × Node))
  /-- The place where the text stops being JSON. -/
  | broken

/-- A whole text: its value, and whether only blanks follow it. -/
structure Document where
  root : Node
  /-- Whether nothing but blanks comes after the value. -/
  closed : Bool

mutual

/-- A value without a broken place. -/
def Node.sound : Node → Bool
  | .array items => soundItems items
  | .object members => soundMembers members
  | .broken => false
  | _ => true

/-- Items without a broken place. -/
def soundItems : List Node → Bool
  | [] => true
  | n :: rest => n.sound && soundItems rest

/-- Members without a broken place; their keys need not be sequences of characters. -/
def soundMembers : List (Option String × Node) → Bool
  | [] => true
  | m :: rest => m.2.sound && soundMembers rest

end

end Overseer.Json
