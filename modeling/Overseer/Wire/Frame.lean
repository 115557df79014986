import Overseer.Wire.Envelope
import Overseer.Json.Printer

/-!
# Frames

A frame is a value as JSON on a line of its own, not longer than a limit. A `Feed` takes a stream
of bytes in chunks of any size and hands out what is on each line: a bad line is reported and
passed over, and what has no end of line yet is kept as long as it is within the limit.
-/

namespace Overseer.Wire

open Overseer.Json

/-- Why a frame cannot be written or read. -/
inductive FrameError where
  /-- A line is too long. -/
  | oversizedFrame (size limit : Nat)
  /-- What came without an end of line is too long. -/
  | oversizedBuffer (size limit : Nat)
  /-- A value has no JSON text. -/
  | unwritable (why : String)
  /-- A line does not say what is expected. -/
  | unreadable (why : ReadError)
  deriving DecidableEq, Repr

namespace FrameError

/-- The wording for a line that cannot be read. -/
def unreadableMessage (why : String) : String := "frame decode failed: " ++ why

/-- The wording of an error. -/
def message : FrameError → String
  | .oversizedFrame size limit =>
    "frame exceeds max size: " ++ toString size ++ " > " ++ toString limit
  | .oversizedBuffer size limit =>
    "buffer exceeds max size without delimiter: " ++ toString size ++ " > " ++ toString limit
  | .unwritable why => "frame encode failed: " ++ why
  | .unreadable why => unreadableMessage why.message

end FrameError

/-- The longest frame unless something else is said. -/
def defaultFrameLimit : Nat := 256 * 1024

/-- The end of a line. -/
def lineFeed : UInt8 := 10

/-- What may stand before the end of a line. -/
def carriageReturn : UInt8 := 13

/-- The bytes without one `b` at the end. -/
def dropLast (b : UInt8) (line : List UInt8) : List UInt8 :=
  if line.getLast? = some b then line.dropLast else line

/-- A line without its end. -/
def trimLine (line : List UInt8) : List UInt8 :=
  dropLast carriageReturn (dropLast lineFeed line)

/-- The frame of a value, with its end of line. The limit does not count the end of line. -/
def encodeFrame (v : Value) (limit : Nat) : Except FrameError (List UInt8) :=
  let bytes := v.write
  if limit < bytes.length then .error (.oversizedFrame bytes.length limit)
  else .ok (bytes ++ [lineFeed])

variable {α : Type}

/-- Reads a line within the limit. -/
def decodeLine (read : Decoder α) (limit : Nat) (line : List UInt8) : Except FrameError α :=
  if limit < line.length then .error (.oversizedFrame line.length limit)
  else
    match read.readDocument line with
    | .ok v => .ok v
    | .error e => .error (.unreadable e)

/-- Reads a frame with or without its end of line. -/
def decodeFrame (read : Decoder α) (limit : Nat) (bytes : List UInt8) : Except FrameError α :=
  decodeLine read limit (trimLine bytes)

/-- The incremental decoder of a byte stream of frames, between two chunks. -/
structure Feed where
  /-- The longest line. -/
  limit : Nat
  /-- What came after the last end of line. -/
  pending : List UInt8
  deriving DecidableEq, Repr

/-- What the lines of a stream held, in order. -/
abbrev Yield (α : Type) := List (Except FrameError α)

/-- The frames that could be read. -/
def frames (y : Yield α) : List α := y.filterMap Except.toOption

/-- What could not be read. -/
def faults (y : Yield α) : List FrameError :=
  y.filterMap fun
    | .ok _ => none
    | .error e => some e

namespace Feed

/-- A stream before its first byte. -/
def start (limit : Nat) : Feed := ⟨limit, []⟩

/-- What a line holds; nothing for an empty one. -/
def lineYield (read : Decoder α) (limit : Nat) (line : List UInt8) : Yield α :=
  let line := trimLine line
  if line.isEmpty then [] else [decodeLine read limit line]

/-- How far a feed is with the bytes in its buffer. -/
structure Cursor (α : Type) where
  /-- The bytes before this place are done with. -/
  consumed : Nat
  /-- What they held. -/
  said : Yield α

/-- Takes the line behind the cursor, if its end is in the buffer. -/
def advance (read : Decoder α) (limit : Nat) (buffer : List UInt8) (c : Cursor α) :
    Option (Cursor α) :=
  match (buffer.drop c.consumed).idxOf? lineFeed with
  | none => none
  | some offset =>
    let stop := c.consumed + offset
    some ⟨stop + 1, c.said ++ lineYield read limit (buffer.extract c.consumed stop)⟩

theorem advance_eq_some {read : Decoder α} {limit : Nat} {buffer : List UInt8} {c next : Cursor α} :
    advance read limit buffer c = some next ↔
      ∃ offset, (buffer.drop c.consumed).idxOf? lineFeed = some offset ∧
        next = ⟨c.consumed + offset + 1,
          c.said ++ lineYield read limit (buffer.extract c.consumed (c.consumed + offset))⟩ := by
  unfold advance
  cases (buffer.drop c.consumed).idxOf? lineFeed with
  | none => simp
  | some offset => simp [eq_comm]

theorem consumed_lt_length {buffer : List UInt8} {consumed offset : Nat}
    (h : (buffer.drop consumed).idxOf? lineFeed = some offset) :
    consumed + offset < buffer.length := by
  obtain ⟨hlt, -⟩ := List.findIdx?_eq_some_iff_getElem.1 h
  rw [List.length_drop] at hlt
  omega

/-- Takes all lines behind the cursor that end in the buffer. -/
def scan (read : Decoder α) (limit : Nat) (buffer : List UInt8) (c : Cursor α) : Cursor α :=
  match _h : advance read limit buffer c with
  | none => c
  | some next => scan read limit buffer next
termination_by buffer.length - c.consumed
decreasing_by
  obtain ⟨offset, hoffset, rfl⟩ := advance_eq_some.1 _h
  have := consumed_lt_length hoffset
  simp only
  omega

/-- Takes a chunk of the stream. The buffer loses the lines that were taken only when all of them
are. -/
def push (read : Decoder α) (f : Feed) (chunk : List UInt8) : Feed × Yield α :=
  let buffer := f.pending ++ chunk
  let c := scan read f.limit buffer ⟨0, []⟩
  let rest := buffer.drop c.consumed
  if f.limit < rest.length then
    ({ f with pending := [] }, c.said ++ [.error (.oversizedBuffer rest.length f.limit)])
  else ({ f with pending := rest }, c.said)

/-- Takes the end of the stream, which ends the last line as well. -/
def finish (read : Decoder α) (f : Feed) : Feed × Yield α :=
  ({ f with pending := [] }, lineYield read f.limit f.pending)

/-- Takes chunks in order. -/
def pushAll (read : Decoder α) (f : Feed) : List (List UInt8) → Feed × Yield α
  | [] => (f, [])
  | chunk :: rest =>
    let one := f.push read chunk
    let more := one.1.pushAll read rest
    (more.1, one.2 ++ more.2)

end Feed

end Overseer.Wire
