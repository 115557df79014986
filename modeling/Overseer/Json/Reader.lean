import Overseer.Json.Node
import Overseer.Text.Utf8

/-!
# Reading JSON text

The reader takes one byte at a time, so a text is read by a fold and reading two parts in a row is
reading the first, then the second (`feed_append`). It never gives up: where the grammar is broken
it closes what is open around a `broken` place and ignores the rest.
-/

namespace Overseer.Json

open Overseer.Text

/-- The number of an ASCII character, as a byte. -/
def ascii (c : Char) : UInt8 := UInt8.ofNat c.toNat

/-- A piece of a text between quotes. -/
inductive Piece where
  /-- A byte that stands for itself, or a short escape. -/
  | byte (b : UInt8)
  /-- A UTF-16 unit given by its number. -/
  | unit (n : Nat)
  deriving DecidableEq, Repr

/-- The bytes of the pieces, last piece first in `done`; a unit of a surrogate pair must have its
partner right behind it. -/
def joinPieces : List Piece → List UInt8 → Option (List UInt8)
  | [], done => some done.reverse
  | .byte b :: rest, done => joinPieces rest (b :: done)
  | .unit n :: rest, done =>
    if 0xD800 ≤ n ∧ n < 0xDC00 then
      match rest with
      | .unit m :: rest =>
        if 0xDC00 ≤ m ∧ m < 0xE000 then
          let c := Char.ofNat (0x10000 + (n - 0xD800) * 0x400 + (m - 0xDC00))
          joinPieces rest ((Utf8.encodeChar c).reverse ++ done)
        else none
      | _ => none
    else if 0xDC00 ≤ n ∧ n < 0xE000 then none
    else joinPieces rest ((Utf8.encodeChar (Char.ofNat n)).reverse ++ done)

/-- The text of pieces in order. -/
def textOf (pieces : List Piece) : Option String :=
  (joinPieces pieces []).bind Utf8.decode

/-- The part of a number that is being read. -/
inductive NumberStage where
  /-- After the minus sign. -/
  | sign
  /-- In the digits before the point. -/
  | whole
  /-- After the point. -/
  | point
  /-- In the digits after the point. -/
  | fraction
  /-- After the letter of the exponent. -/
  | mark
  /-- After the sign of the exponent. -/
  | markSign
  /-- In the digits of the exponent. -/
  | power
  deriving DecidableEq, Repr

/-- A number read in part; digits are kept last first. -/
structure NumberDraft where
  /-- The part that is being read. -/
  stage : NumberStage
  negative : Bool
  /-- The digits before the point. -/
  whole : List Nat
  /-- The digits after the point. -/
  fraction : List Nat
  /-- Whether the exponent has a minus sign. -/
  powerNegative : Bool
  /-- The digits of the exponent. -/
  power : List Nat
  deriving DecidableEq, Repr

namespace NumberDraft

/-- The value of an ASCII digit. -/
def digit? (b : UInt8) : Option Nat :=
  if ascii '0' ≤ b ∧ b ≤ ascii '9' then some (b.toNat - '0'.toNat) else none

/-- The draft that a first byte opens. -/
def start? (b : UInt8) : Option NumberDraft :=
  if b = ascii '-' then some ⟨.sign, true, [], [], false, []⟩
  else (digit? b).map fun d => ⟨.whole, false, [d], [], false, []⟩

/-- The draft with one more byte, if the byte can be part of the number. -/
def extend? (d : NumberDraft) (b : UInt8) : Option NumberDraft :=
  match d.stage, digit? b with
  | .sign, some n => some { d with stage := .whole, whole := [n] }
  | .whole, some n => if d.whole = [0] then none else some { d with whole := n :: d.whole }
  | .point, some n => some { d with stage := .fraction, fraction := [n] }
  | .fraction, some n => some { d with fraction := n :: d.fraction }
  | .mark, some n | .markSign, some n | .power, some n =>
    some { d with stage := .power, power := n :: d.power }
  | .whole, none =>
    if b = ascii '.' then some { d with stage := .point }
    else if b = ascii 'e' ∨ b = ascii 'E' then some { d with stage := .mark }
    else none
  | .fraction, none =>
    if b = ascii 'e' ∨ b = ascii 'E' then some { d with stage := .mark } else none
  | .mark, none =>
    if b = ascii '+' then some { d with stage := .markSign }
    else if b = ascii '-' then some { d with stage := .markSign, powerNegative := true }
    else none
  | _, none => none

/-- The number, if it may end here. -/
def literal? (d : NumberDraft) : Option Literal :=
  match d.stage with
  | .whole => some ⟨d.negative, d.whole.reverse, none, none⟩
  | .fraction => some ⟨d.negative, d.whole.reverse, some d.fraction.reverse, none⟩
  | .power =>
    let fraction := if d.fraction = [] then none else some d.fraction.reverse
    some ⟨d.negative, d.whole.reverse, fraction, some (d.powerNegative, d.power.reverse)⟩
  | _ => none

end NumberDraft

/-- An array or object that is still open; what it holds is kept last first. -/
inductive Frame where
  /-- An array with its items. -/
  | array (items : List Node)
  /-- An object with its members. -/
  | object (members : List (Option String × Node))
  /-- An object that waits for the value of a key. -/
  | member (members : List (Option String × Node)) (key : Option String)

/-- What the reader waits for. -/
inductive Phase where
  | value
  /-- The first item of an array, or its end. -/
  | firstItem
  /-- The first key of an object, or its end. -/
  | firstKey
  | key
  | colon (key : Option String)
  /-- A comma or the end of what is open. -/
  | after
  /-- The rest of one of the three words. -/
  | word (rest : List UInt8) (node : Node)
  /-- More of a number. -/
  | number (draft : NumberDraft)
  /-- More of a text. -/
  | text (asKey : Bool) (pieces : List Piece)
  /-- The letter of an escape. -/
  | escape (asKey : Bool) (pieces : List Piece)
  /-- More digits of a numbered escape. -/
  | hex (asKey : Bool) (pieces : List Piece) (left : Nat) (n : Nat)
  /-- Nothing: the grammar is broken. -/
  | failed

/-- A reader in the middle of a text. -/
structure Reader where
  /-- What is open, innermost first. -/
  stack : List Frame
  /-- What the reader waits for. -/
  phase : Phase
  /-- The value of the text, once it is complete. -/
  root : Option Node

/-- A frame closed around a last node. -/
def Frame.closeWith (f : Frame) (n : Node) : Node :=
  match f with
  | .array items => .array (n :: items).reverse
  | .object members => .object ((none, n) :: members).reverse
  | .member members key => .object ((key, n) :: members).reverse

namespace Reader

/-- The reader before a text. -/
def start : Reader := ⟨[], .value, none⟩

/-- Blanks of the grammar. -/
def blank (b : UInt8) : Bool :=
  b == ascii ' ' || b == ascii '\t' || b == ascii '\n' || b == ascii '\r'

/-- Closes all that is open around a broken place. -/
def fail (r : Reader) : Reader :=
  match r.root with
  | some _ => { r with phase := .failed }
  | none => ⟨[], .failed, some (r.stack.foldl (fun n f => f.closeWith n) .broken)⟩

/-- Takes a complete value. -/
def put (r : Reader) (n : Node) : Reader :=
  match r.stack with
  | [] => { r with phase := .after, root := some n }
  | .array items :: rest => { r with stack := .array (n :: items) :: rest, phase := .after }
  | .member members key :: rest =>
    { r with stack := .object ((key, n) :: members) :: rest, phase := .after }
  | .object _ :: _ => r.fail

/-- Takes the end of an array. -/
def closeArray (r : Reader) : Reader :=
  match r.stack with
  | .array items :: rest => { r with stack := rest }.put (.array items.reverse)
  | _ => r.fail

/-- Takes the end of an object. -/
def closeObject (r : Reader) : Reader :=
  match r.stack with
  | .object members :: rest => { r with stack := rest }.put (.object members.reverse)
  | _ => r.fail

/-- Takes the first byte of a value. -/
def open_ (r : Reader) (b : UInt8) : Reader :=
  if b = ascii '[' then { r with stack := .array [] :: r.stack, phase := .firstItem }
  else if b = ascii '\x7b' then { r with stack := .object [] :: r.stack, phase := .firstKey }
  else if b = ascii '"' then { r with phase := .text false [] }
  else if b = ascii 'n' then { r with phase := .word [ascii 'u', ascii 'l', ascii 'l'] .null }
  else if b = ascii 't' then
    { r with phase := .word [ascii 'r', ascii 'u', ascii 'e'] (.bool true) }
  else if b = ascii 'f' then
    { r with phase := .word [ascii 'a', ascii 'l', ascii 's', ascii 'e'] (.bool false) }
  else
    match NumberDraft.start? b with
    | some d => { r with phase := .number d }
    | none => r.fail

/-- Takes a byte behind a value. -/
def behind (r : Reader) (b : UInt8) : Reader :=
  if blank b then r
  else if b = ascii ',' then
    match r.stack with
    | .array _ :: _ => { r with phase := .value }
    | .object _ :: _ => { r with phase := .key }
    | _ => r.fail
  else if b = ascii ']' then r.closeArray
  else if b = ascii '\x7d' then r.closeObject
  else r.fail

/-- Takes a complete text. -/
def putText (r : Reader) (asKey : Bool) (pieces : List Piece) : Reader :=
  let s := textOf pieces.reverse
  if asKey then { r with phase := .colon s } else r.put (.text s)

/-- The byte that a short escape stands for. -/
def shortEscape? (b : UInt8) : Option UInt8 :=
  if b = ascii '"' ∨ b = ascii '\\' ∨ b = ascii '/' then some b
  else if b = ascii 'b' then some 8
  else if b = ascii 'f' then some 12
  else if b = ascii 'n' then some 10
  else if b = ascii 'r' then some 13
  else if b = ascii 't' then some 9
  else none

/-- The value of a hexadecimal digit. -/
def hexDigit? (b : UInt8) : Option Nat :=
  if ascii '0' ≤ b ∧ b ≤ ascii '9' then some (b.toNat - '0'.toNat)
  else if ascii 'a' ≤ b ∧ b ≤ ascii 'f' then some (b.toNat - 'a'.toNat + 10)
  else if ascii 'A' ≤ b ∧ b ≤ ascii 'F' then some (b.toNat - 'A'.toNat + 10)
  else none

/-- Takes one byte. -/
def step (r : Reader) (b : UInt8) : Reader :=
  match r.phase with
  | .value => if blank b then r else r.open_ b
  | .firstItem => if blank b then r else if b = ascii ']' then r.closeArray else r.open_ b
  | .firstKey =>
    if blank b then r
    else if b = ascii '\x7d' then r.closeObject
    else if b = ascii '"' then { r with phase := .text true [] }
    else r.fail
  | .key =>
    if blank b then r
    else if b = ascii '"' then { r with phase := .text true [] }
    else r.fail
  | .colon key =>
    if blank b then r
    else if b = ascii ':' then
      match r.stack with
      | .object members :: rest =>
        { r with stack := .member members key :: rest, phase := .value }
      | _ => r.fail
    else r.fail
  | .after => r.behind b
  | .word [] _ => r.fail
  | .word (c :: rest) node =>
    if b = c then
      if rest = [] then r.put node else { r with phase := .word rest node }
    else r.fail
  | .number draft =>
    match draft.extend? b with
    | some draft => { r with phase := .number draft }
    | none =>
      match draft.literal? with
      | some l => (r.put (.number l)).behind b
      | none => r.fail
  | .text asKey pieces =>
    if b = ascii '"' then r.putText asKey pieces
    else if b = ascii '\\' then { r with phase := .escape asKey pieces }
    else if b < 0x20 then r.fail
    else { r with phase := .text asKey (.byte b :: pieces) }
  | .escape asKey pieces =>
    if b = ascii 'u' then { r with phase := .hex asKey pieces 4 0 }
    else
      match shortEscape? b with
      | some c => { r with phase := .text asKey (.byte c :: pieces) }
      | none => r.fail
  | .hex asKey pieces left n =>
    match hexDigit? b with
    | some d =>
      if left ≤ 1 then { r with phase := .text asKey (.unit (n * 16 + d) :: pieces) }
      else { r with phase := .hex asKey pieces (left - 1) (n * 16 + d) }
    | none => r.fail
  | .failed => r

/-- Takes bytes in order. -/
def feed (r : Reader) (bs : List UInt8) : Reader := bs.foldl step r

theorem feed_append (r : Reader) (a b : List UInt8) : r.feed (a ++ b) = (r.feed a).feed b :=
  List.foldl_append

/-- The document at the end of the text. -/
def finish (r : Reader) : Document :=
  let r :=
    match r.phase with
    | .number draft =>
      match draft.literal? with
      | some l => r.put (.number l)
      | none => r
    | _ => r
  match r.root, r.phase with
  | some n, .after => ⟨n, true⟩
  | some n, _ => ⟨n, false⟩
  | none, _ => ⟨r.fail.root.getD .broken, false⟩

end Reader

/-- Reads a text. -/
def read (bs : List UInt8) : Document := (Reader.start.feed bs).finish

end Overseer.Json
