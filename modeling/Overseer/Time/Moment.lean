/-!
# Points in time

A moment is a second of Universal Time and a part of it, in the proleptic Gregorian calendar. A
leap second is counted as the second before it with a part of a whole second or more.
-/

namespace Overseer.Time

/-- A point in time. -/
structure Moment where
  /-- Whole seconds since the start of 1970. -/
  seconds : Int
  /-- Nanoseconds behind the whole second; a leap second has a thousand million or more. -/
  nanos : Nat
  deriving DecidableEq, Repr, Inhabited

/-- A day of the calendar. -/
structure Date where
  /-- The year, zero before the first one. -/
  year : Int
  /-- The month from 1 to 12. -/
  month : Nat
  /-- The day of the month from 1. -/
  day : Nat
  deriving DecidableEq, Repr

namespace Date

/-- Whether a year has a 29th of February. -/
def leap (year : Int) : Bool := year % 4 == 0 && (year % 100 != 0 || year % 400 == 0)

/-- The length of a month. -/
def monthLength (year : Int) (month : Nat) : Nat :=
  if month = 2 then (if leap year then 29 else 28)
  else if month = 4 ∨ month = 6 ∨ month = 9 ∨ month = 11 then 30
  else 31

/-- A date that is in the calendar. -/
def valid (d : Date) : Bool :=
  1 ≤ d.month && d.month ≤ 12 && 1 ≤ d.day && d.day ≤ monthLength d.year d.month

/-- Days since the start of 1970. Years are taken to begin in March, so that the leap day is the
last one, and are counted in periods of 400. -/
def toDays (d : Date) : Int :=
  let year := if d.month ≤ 2 then d.year - 1 else d.year
  let period := Int.fdiv year 400
  let ofPeriod := year - period * 400
  let month : Int := if d.month ≤ 2 then (d.month : Int) + 9 else (d.month : Int) - 3
  let ofYear := (153 * month + 2) / 5 + (d.day : Int) - 1
  let days := ofPeriod * 365 + ofPeriod / 4 - ofPeriod / 100 + ofYear
  period * 146097 + days - 719468

/-- The date of a day since the start of 1970. -/
def ofDays (n : Int) : Date :=
  let n := n + 719468
  let period := Int.fdiv n 146097
  let days := n - period * 146097
  let ofPeriod := (days - days / 1460 + days / 36524 - days / 146096) / 365
  let ofYear := days - (365 * ofPeriod + ofPeriod / 4 - ofPeriod / 100)
  let shifted := (5 * ofYear + 2) / 153
  let day := ofYear - (153 * shifted + 2) / 5 + 1
  let month := if shifted < 10 then shifted + 3 else shifted - 9
  let year := ofPeriod + period * 400 + (if month ≤ 2 then 1 else 0)
  ⟨year, month.toNat, day.toNat⟩

end Date

/-- A natural number with zeros in front up to a width. -/
def padded (width n : Nat) : String :=
  let s := toString n
  String.ofList (List.replicate (width - s.length) '0') ++ s

namespace Moment

/-- The moment so many milliseconds after the start of 1970. -/
def ofMillis (ms : Int) : Moment :=
  ⟨Int.fdiv ms 1000, (ms - Int.fdiv ms 1000 * 1000).toNat * 1000000⟩

/-- The moment so many milliseconds later. -/
def addMillis (t : Moment) (ms : Nat) : Moment :=
  let nanos := t.nanos + ms % 1000 * 1000000
  ⟨t.seconds + (ms / 1000 : Nat) + (nanos / 1000000000 : Nat), nanos % 1000000000⟩

/-- The date of a moment. -/
def date (t : Moment) : Date := Date.ofDays (Int.fdiv t.seconds 86400)

/-- The second of the day. -/
def ofDay (t : Moment) : Nat := (t.seconds - Int.fdiv t.seconds 86400 * 86400).toNat

/-- The second of the minute, 60 in a leap second. -/
def ofMinute (t : Moment) : Nat := t.ofDay % 60 + t.nanos / 1000000000

/-- The time of day as `HH:MM:SS`. -/
def clock (t : Moment) : String :=
  padded 2 (t.ofDay / 3600) ++ ":" ++ padded 2 (t.ofDay / 60 % 60) ++ ":" ++ padded 2 t.ofMinute

/-- A year with four digits, and with its sign if that is not enough. -/
def yearText (y : Int) : String :=
  if 0 ≤ y ∧ y ≤ 9999 then padded 4 y.toNat
  else (if y < 0 then "-" else "+") ++ padded 4 y.natAbs

/-- The part of the second with 3, 6 or 9 digits, whatever is needed. -/
def fractionText (n : Nat) : String :=
  if n = 0 then ""
  else if n % 1000000 = 0 then "." ++ padded 3 (n / 1000000)
  else if n % 1000 = 0 then "." ++ padded 6 (n / 1000)
  else "." ++ padded 9 n

/-- Date and time of day joined by a `T`. -/
def dateTime (t : Moment) : String :=
  let d := t.date
  yearText d.year ++ "-" ++ padded 2 d.month ++ "-" ++ padded 2 d.day ++ "T" ++ t.clock ++
    fractionText (t.nanos % 1000000000)

/-- The internet format, with `Z` for Universal Time. -/
def text (t : Moment) : String := t.dateTime ++ "Z"

/-- The internet format, with a numeric offset for Universal Time. -/
def textWithOffset (t : Moment) : String := t.dateTime ++ "+00:00"

end Moment

end Overseer.Time
