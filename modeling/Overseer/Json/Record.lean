import Overseer.Json.Value
import Overseer.Json.Reader

/-!
# Records

How the fields of a record are found in a document. A record is an object, where members with
unknown keys are passed over, or an array with the fields in their order. A field has one or more
names, may be given once, and may be left out only if it has a default.
-/

namespace Overseer.Json

/-- How strictly a document is read. -/
structure Mode where
  /-- How many levels of arrays and objects may still be entered. -/
  room : Nat
  /-- Whether a name may be given as the key of an empty object. -/
  emptyUnderName : Bool
  /-- Whether items behind the last field of a record are passed over. -/
  spareItems : Bool
  deriving DecidableEq, Repr

/-- Documents that are read as they are parsed. -/
def Mode.direct : Mode := ⟨127, false, false⟩

/-- Parts of a document that were checked as a whole before they are read. -/
def Mode.checked : Mode := ⟨127, true, false⟩

/-- Documents of a configuration file. -/
def Mode.settings : Mode := ⟨1000, false, true⟩

/-- The mode one level further in. -/
def Mode.inner (m : Mode) : Mode := { m with room := m.room - 1 }

/-- A reader of values of `α`. -/
abbrev Decoder (α : Type) := Mode → Node → Result α

/-- A field of a record of type `α`. -/
structure Field (α : Type) where
  names : List String
  /-- Whether the field has no default. -/
  required : Bool
  /-- Reads the field into a record. -/
  store : Mode → Node → α → Result α

/-- The fields of a record. -/
structure Shape (α : Type) where
  fields : List (Field α)
  /-- What becomes of members with other keys; with `none` they are passed over. -/
  other : Option (Mode → String → Node → α → Result α)

/-- A record in the middle of reading: the positions of the fields seen, and the record so far. -/
structure Draft (α : Type) where
  /-- Positions of the fields that were given. -/
  seen : List Nat
  record : α

variable {α : Type}

/-- Reads the field at a position. -/
def Draft.store (d : Draft α) (m : Mode) (i : Nat) (f : Field α) (n : Node) : Result (Draft α) :=
  if d.seen.contains i then .error (.repeated (f.names.headD ""))
  else
    match f.store m n d.record with
    | .ok r => .ok ⟨i :: d.seen, r⟩
    | .error e => .error e

/-- Reads one member. -/
def Shape.readMember (s : Shape α) (m : Mode) (d : Draft α) (key : Option String) (n : Node) :
    Result (Draft α) :=
  match key with
  | none => .error .badText
  | some key =>
    match s.fields.findIdx? fun f => f.names.contains key with
    | some i =>
      match s.fields[i]? with
      | some f => d.store m i f n
      | none => .ok d
    | none =>
      match s.other with
      | some spill =>
        match spill m key n d.record with
        | .ok r => .ok { d with record := r }
        | .error e => .error e
      | none => if n.sound then .ok d else .error .broken

/-- Reads members in order. -/
def Shape.readMembers (s : Shape α) (m : Mode) :
    List (Option String × Node) → Draft α → Result (Draft α)
  | [], d => .ok d
  | x :: rest, d =>
    match s.readMember m d x.1 x.2 with
    | .ok d => s.readMembers m rest d
    | .error e => .error e

/-- Reads items into the fields from position `i` on. -/
def readItems (m : Mode) : List (Field α) → Nat → List Node → Draft α → Result (Draft α)
  | [], _, [], d => .ok d
  | [], _, _ :: _, d => if m.spareItems then .ok d else .error .spareItems
  | f :: fs, i, [], d =>
    if f.required then .error (.missing (f.names.headD "")) else readItems m fs (i + 1) [] d
  | f :: fs, i, n :: rest, d =>
    match d.store m i f n with
    | .ok d => readItems m fs (i + 1) rest d
    | .error e => .error e

/-- The name of the first field from position `i` on that is missing. -/
def firstMissing (seen : List Nat) : List (Field α) → Nat → Option String
  | [], _ => none
  | f :: fs, i =>
    if f.required && !seen.contains i then some (f.names.headD "")
    else firstMissing seen fs (i + 1)

/-- Reads a record, starting from one that holds the defaults. -/
def Shape.read (s : Shape α) (defaults : α) : Decoder α := fun m n =>
  match n with
  | .object members =>
    if m.room = 0 then .error .tooDeep
    else
      match s.readMembers m.inner members ⟨[], defaults⟩ with
      | .ok d =>
        match firstMissing d.seen s.fields 0 with
        | some field => .error (.missing field)
        | none => .ok d.record
      | .error e => .error e
  | .array items =>
    if s.other.isSome then .error .mismatch
    else if m.room = 0 then .error .tooDeep
    else (readItems m.inner s.fields 0 items ⟨[], defaults⟩).map (·.record)
  | .broken => .error .broken
  | _ => .error .mismatch

/-- A field that is read by `read` and stored by `set`. -/
def field {β : Type} (names : List String) (required : Bool) (read : Decoder β)
    (set : β → α → α) : Field α :=
  ⟨names, required, fun m n r => (read m n).map fun v => set v r⟩

/-! ### Plain values -/

/-- A text. -/
def readText : Decoder String := fun _ n =>
  match n with
  | .text (some s) => .ok s
  | .text none => .error .badText
  | .broken => .error .broken
  | _ => .error .mismatch

/-- A truth value. -/
def readBool : Decoder Bool := fun _ n =>
  match n with
  | .bool b => .ok b
  | .broken => .error .broken
  | _ => .error .mismatch

/-- An integer from `least` to `largest`. -/
def readInt (least largest : Int) : Decoder Int := fun _ n =>
  match n with
  | .number l =>
    match l.number? with
    | some (.int k) => if least ≤ k ∧ k ≤ largest then .ok k else .error .outOfRange
    | some (.double _) => .error .mismatch
    | none => .error .outOfRange
  | .broken => .error .broken
  | _ => .error .mismatch

/-- A natural number of so many bits. -/
def readNat (bits : Nat) : Decoder Nat := fun m n =>
  (readInt 0 (Nat.pow 2 bits - 1 : Nat) m n).map Int.toNat

/-- An integer of 64 bits with sign. -/
def readInt64 : Decoder Int := readInt (-(Nat.pow 2 63 : Nat)) (Nat.pow 2 63 - 1 : Nat)

/-- A value or `null`. -/
def readOptional {β : Type} (read : Decoder β) : Decoder (Option β) := fun m n =>
  match n with
  | .null => .ok none
  | _ => (read m n).map some

/-- A name out of a list, alone or as the only key of an object that holds nothing. -/
def readName {β : Type} (names : List (String × β)) : Decoder β := fun m n =>
  let known (name : String) : Result β :=
    match Table.find name names with
    | some v => .ok v
    | none => .error .unknownName
  match n with
  | .text (some name) => known name
  | .text none => .error .badText
  | .object [(some name, .null)] => if m.room = 0 then .error .tooDeep else known name
  | .object [(some name, .object [])] => if m.emptyUnderName then known name else .error .mismatch
  | .broken => .error .broken
  | _ => .error .mismatch

/-- Reads items in order; the values so far are kept last first. -/
def readEach {β : Type} (read : Decoder β) (m : Mode) : List Node → List β → Result (List β)
  | [], done => .ok done.reverse
  | n :: rest, done =>
    match read m n with
    | .ok v => readEach read m rest (v :: done)
    | .error e => .error e

/-- An array of values. -/
def readList {β : Type} (read : Decoder β) : Decoder (List β) := fun m n =>
  match n with
  | .array items => if m.room = 0 then .error .tooDeep else readEach read m.inner items []
  | .broken => .error .broken
  | _ => .error .mismatch

/-- Reads entries of a map in order. -/
def readEntries {β : Type} (read : Decoder β) (m : Mode) :
    List (Option String × Node) → Table β → Result (Table β)
  | [], done => .ok done
  | x :: rest, done =>
    match x.1, read m x.2 with
    | some key, .ok v => readEntries read m rest (done.insert key v)
    | none, _ => .error .badText
    | some _, .error e => .error e

/-- A map from text; of two entries with the same key the later one counts. -/
def readTable {β : Type} (read : Decoder β) : Decoder (Table β) := fun m n =>
  match n with
  | .object members =>
    if m.room = 0 then .error .tooDeep else readEntries read m.inner members .empty
  | .broken => .error .broken
  | _ => .error .mismatch

/-- Any value. -/
def readValue : Decoder Value := fun m n => Value.ofNode m.room n

/-- Reads a whole text. -/
def Decoder.readDocument {β : Type} (read : Decoder β) (bs : List UInt8) : Result β :=
  let d := Json.read bs
  match read .direct d.root with
  | .ok v => if d.closed then .ok v else .error .broken
  | .error e => .error e

end Overseer.Json
