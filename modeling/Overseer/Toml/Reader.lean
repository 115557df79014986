import Overseer.Toml.Scalar
import Overseer.Toml.Tree

/-!
# Reading TOML

A document is a list of lines: headers of tables, keys with values, blanks and comments. It is read
into the same nodes as JSON, so records are found in both by the same rules.
-/

namespace Overseer.Toml

open Overseer.Json

/-- The items of an array behind its bracket; `done` is kept last first. The fuel is to be more than
the number of characters, and stays so, as every item has at least one. -/
def arrayRest (value : Scan Node) : Nat → List Char → List Node → Option (Node × List Char)
  | 0, _, _ => none
  | fuel + 1, cs, done => do
    let cs ← skipLines fuel cs
    match cs with
    | ']' :: rest => some (.array done.reverse, rest)
    | _ =>
      let (n, cs) ← value cs
      let cs ← skipLines fuel cs
      match cs with
      | ',' :: rest => arrayRest value fuel rest (n :: done)
      | ']' :: rest => some (.array (n :: done).reverse, rest)
      | _ => none

/-- A key with its value. -/
def keyValue (value : Scan Node) : Scan (List String × Node) := fun cs => do
  let (path, cs) ← key cs
  let cs ← mark '=' cs
  let (n, cs) ← value (skipSpace cs)
  some ((path, n), skipSpace cs)

/-- The members of an inline table. -/
def inlineRest (value : Scan Node) : Nat → List Char → Members → Option (Node × List Char)
  | 0, _, _ => none
  | fuel + 1, cs, done => do
    let ((path, n), cs) ← keyValue value cs
    let done ← Members.put path n done
    match cs with
    | ',' :: rest => inlineRest value fuel rest done
    | '\x7d' :: rest => some (.object (Item.toMembers done), rest)
    | _ => none

/-- A value in which `room` levels of arrays and inline tables may be entered. -/
def value : Nat → List Char → Option (Node × List Char)
  | room, '[' :: rest =>
    match room with
    | 0 => none
    | room + 1 => arrayRest (value room) (rest.length + 1) rest []
  | room, '\x7b' :: rest =>
    match room with
    | 0 => none
    | room + 1 =>
      match skipSpace rest with
      | '\x7d' :: rest => some (.object [], rest)
      | _ => inlineRest (value room) (rest.length + 1) rest []
  | _, cs => scalar cs

/-- A document in the middle of reading. -/
structure Draft where
  /-- The table that is open. -/
  path : List String
  /-- All tables. -/
  root : Members

namespace Draft

/-- Opens a table. -/
def open_ (d : Draft) (path : List String) (change : String → Members → Option Members) :
    Option Draft :=
  let make (_ : Origin) (members : Members) : Option Members := change (path.getLastD "") members
  (Members.update false make path.dropLast .header d.root).map fun root => ⟨path, root⟩

/-- Puts a value into the table that is open. -/
def put (d : Draft) (path : List String) (n : Node) : Option Draft :=
  let place (_ : Origin) (members : Members) : Option Members := members.put path n
  (Members.update false place d.path .header d.root).map fun root => { d with root := root }

/-- Reads the line in front, which is neither blank nor a comment. -/
def line (d : Draft) (cs : List Char) : Option (Draft × List Char) := do
  match cs with
  | '[' :: '[' :: rest =>
    let (path, cs) ← key rest
    let cs ← mark ']' cs
    let cs ← mark ']' cs
    let rest ← lineEnd? cs
    let d ← d.open_ path Members.openElement
    some (d, rest)
  | '[' :: rest =>
    let (path, cs) ← key rest
    let cs ← mark ']' cs
    let rest ← lineEnd? cs
    let d ← d.open_ path Members.openTable
    some (d, rest)
  | _ =>
    let ((path, n), cs) ← keyValue (value (nestingLimit - 1)) cs
    let rest ← lineEnd? cs
    let d ← d.put path n
    some (d, rest)

/-- Reads lines. The fuel is to be more than the number of characters. -/
def lines : Nat → Draft → List Char → Option Draft
  | 0, _, _ => none
  | fuel + 1, d, cs =>
    match skipLines fuel cs with
    | none => none
    | some [] => some d
    | some cs =>
      match d.line cs with
      | some (d, rest) => lines fuel d rest
      | none => none

end Draft

/-- Characters without the mark of byte order in front. -/
def skipMark : List Char → List Char
  | c :: rest => if c.toNat = 0xFEFF then rest else c :: rest
  | [] => []

/-- The root table of a document. -/
def read (s : String) : Option Node :=
  let cs := skipMark s.toList
  (Draft.lines (cs.length + 1) ⟨[], []⟩ cs).map fun d => .object (Item.toMembers d.root)

end Overseer.Toml
