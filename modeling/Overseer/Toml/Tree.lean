import Overseer.Json.Node
import Overseer.Table
import Overseer.Toml.Quoted

/-!
# Tables in TOML

The tables of a document while it is read. Headers and keys with points make the tables on their
way; a table is opened by a header once, and keys with points go only into tables that such keys
made.
-/

namespace Overseer.Toml

open Overseer.Json

/-- How a table came about. -/
inductive Origin where
  /-- By a header of its own. -/
  | header
  /-- On the way of a longer header. -/
  | onTheWay
  /-- By a key with points. -/
  | dotted
  deriving DecidableEq, Repr

/-- What a key of a table holds. -/
inductive Item where
  | value (n : Node)
  | table (origin : Origin) (members : List (String × Item))
  /-- Tables of one name, each opened by a header; the one that is open, and those before it with
  the last one first. -/
  | tables (before : List (List (String × Item))) (current : List (String × Item))

/-- The keys of a table in order. -/
abbrev Members := List (String × Item)

namespace Item

mutual

/-- An item as a node. -/
def toNode : Item → Node
  | .value n => n
  | .table _ members => .object (toMembers members)
  | .tables before current => .array (toNodes before [.object (toMembers current)])

/-- Members as those of a node. -/
def toMembers : List (String × Item) → List (Option String × Node)
  | [] => []
  | m :: rest => (some m.1, m.2.toNode) :: toMembers rest

/-- Tables, the last one first, in front of `done`. -/
def toNodes : List (List (String × Item)) → List Node → List Node
  | [], done => done
  | t :: rest, done => toNodes rest (.object (toMembers t) :: done)

end

end Item

namespace Members

/-- Replaces what a key holds. -/
def replace (key : String) (i : Item) (members : Members) : Members :=
  members.map fun m => if m.1 == key then (key, i) else m

/-- Changes the table at the end of a path. Tables that are missing are made; `dotted` tells
whether the path is one of keys with points. -/
def update (dotted : Bool) (change : Origin → Members → Option Members) :
    List String → Origin → Members → Option Members
  | [], origin, members => change origin members
  | key :: path, _, members =>
    match Table.find key members with
    | none =>
      let origin := if dotted then Origin.dotted else .onTheWay
      (update dotted change path origin []).map fun inner =>
        members ++ [(key, .table origin inner)]
    | some (.value _) => none
    | some (.table origin inner) =>
      if dotted ∧ origin = .header then none
      else
        (update dotted change path origin inner).map fun inner =>
          replace key (.table origin inner) members
    | some (.tables before current) =>
      (update dotted change path .header current).map fun current =>
        replace key (.tables before current) members

/-- Opens a table by its header. -/
def openTable (key : String) (members : Members) : Option Members :=
  match Table.find key members with
  | none => some (members ++ [(key, .table .header [])])
  | some (.table .onTheWay inner) => some (replace key (.table .header inner) members)
  | _ => none

/-- Opens one more of several tables with one name. -/
def openElement (key : String) (members : Members) : Option Members :=
  match Table.find key members with
  | none => some (members ++ [(key, .tables [] [])])
  | some (.tables before current) => some (replace key (.tables (current :: before) []) members)
  | _ => none

/-- Puts a value under a key with points. -/
def put (path : List String) (n : Node) (members : Members) : Option Members :=
  let way := path.dropLast
  let key := path.getLastD ""
  let place (origin : Origin) (members : Members) : Option Members :=
    if (origin == .dotted) == way.isEmpty then none
    else if (Table.find key members).isSome then none
    else some (members ++ [(key, .value n)])
  update true place way .header members

end Members

end Overseer.Toml
