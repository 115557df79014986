/-!
# Spans of time

A span is a number of nanoseconds. It is written in the largest unit that gives a whole part, with
the fraction that is needed and no more.
-/

namespace Overseer.Time

/-- A length of time. -/
structure Span where
  /-- Its nanoseconds. -/
  nanos : Nat
  deriving DecidableEq, Repr

namespace Span

/-- So many milliseconds. -/
def ofMillis (n : Nat) : Span := ⟨n * 1000000⟩

/-- So many microseconds. -/
def ofMicros (n : Nat) : Span := ⟨n * 1000⟩

/-- Two spans in a row. -/
def add (a b : Span) : Span := ⟨a.nanos + b.nanos⟩

/-- `part / 10 ^ places` behind a point, without zeros at the end; nothing for zero. -/
def fraction (part places : Nat) : String :=
  let digits := Nat.toDigits 10 part
  let padded := List.replicate (places - digits.length) '0' ++ digits
  let kept := (padded.reverse.dropWhile (· == '0')).reverse
  if kept.isEmpty then "" else "." ++ String.ofList kept

/-- The span in a unit of `10 ^ places` nanoseconds. -/
def inUnit (s : Span) (places : Nat) (name : String) : String :=
  toString (s.nanos / Nat.pow 10 places) ++ fraction (s.nanos % Nat.pow 10 places) places ++ name

/-- The span in the largest unit that it holds once. -/
def text (s : Span) : String :=
  if Nat.pow 10 9 ≤ s.nanos then s.inUnit 9 "s"
  else if Nat.pow 10 6 ≤ s.nanos then s.inUnit 6 "ms"
  else if Nat.pow 10 3 ≤ s.nanos then s.inUnit 3 "µs"
  else s.inUnit 0 "ns"

end Span

end Overseer.Time
