import Overseer.Time.Moment
import Overseer.Text.Blank

/-!
# Reading points in time

The internet format of date and time, read leniently: numbers may be shorter than their width,
blanks may surround the parts, and the zone may be `Z`, `UTC` or an offset with or without a colon.
-/

namespace Overseer.Time.Stamp

open Overseer.Text

/-- Characters without the blanks in front. -/
def skipBlank (cs : List Char) : List Char := cs.dropWhile isBlank

/-- The number that digits spell. -/
def numberOf (ds : List Char) : Nat := ds.foldl (fun n c => n * 10 + (c.toNat - '0'.toNat)) 0

/-- A number of one to `width` digits. -/
def number (width : Nat) (cs : List Char) : Option (Nat × List Char) :=
  let ds := (cs.take width).takeWhile Char.isDigit
  if ds.isEmpty then none else some (numberOf ds, cs.drop ds.length)

/-- A number of any width. -/
def longNumber (cs : List Char) : Option (Nat × List Char) := number cs.length cs

/-- A number of one or two digits behind blanks. -/
def pair (cs : List Char) : Option (Nat × List Char) := number 2 (skipBlank cs)

/-- A given character behind blanks. -/
def mark (c : Char) (cs : List Char) : Option (List Char) :=
  match skipBlank cs with
  | d :: rest => if d = c then some rest else none
  | [] => none

/-- A year: up to four digits, or any number of them behind a sign. -/
def year (cs : List Char) : Option (Int × List Char) :=
  match skipBlank cs with
  | '-' :: rest => (longNumber rest).map fun p => (-(p.1 : Int), p.2)
  | '+' :: rest => (longNumber rest).map fun p => ((p.1 : Int), p.2)
  | cs => (number 4 cs).map fun p => ((p.1 : Int), p.2)

/-- A date. -/
def date (cs : List Char) : Option (Date × List Char) := do
  let (y, cs) ← year cs
  let cs ← mark '-' cs
  let (m, cs) ← pair cs
  let cs ← mark '-' cs
  let (d, cs) ← pair cs
  let date : Date := ⟨y, m, d⟩
  if date.valid && -262143 ≤ y && y ≤ 262142 then some (date, cs) else none

/-- Nanoseconds behind a point; digits after the ninth are passed over. -/
def fraction (cs : List Char) : Option (Nat × List Char) :=
  match cs with
  | '.' :: rest => do
    let (_, _) ← number 9 rest
    let ds := (rest.take 9).takeWhile Char.isDigit
    some (numberOf ds * Nat.pow 10 (9 - ds.length), rest.dropWhile Char.isDigit)
  | _ => some (0, cs)

/-- Seconds of the day and nanoseconds; the second 60 is the leap second of its minute. -/
def time (cs : List Char) : Option ((Nat × Nat) × List Char) := do
  let (h, cs) ← pair cs
  let cs ← mark ':' cs
  let (m, cs) ← pair cs
  let cs ← mark ':' cs
  let (s, cs) ← pair cs
  let (ns, cs) ← fraction cs
  if h ≤ 23 && m ≤ 59 && s ≤ 60 then
    let base := h * 3600 + m * 60
    some (if s = 60 then (base + 59, ns + 1000000000) else (base + s, ns), cs)
  else none

/-- Two digits. -/
def twoDigits (cs : List Char) : Option (Nat × List Char) :=
  match cs with
  | a :: b :: rest => if a.isDigit && b.isDigit then some (numberOf [a, b], rest) else none
  | _ => none

/-- An offset behind its sign, in seconds. -/
def offset (sign : Int) (cs : List Char) : Option (Int × List Char) := do
  let (h, cs) ← twoDigits cs
  let (m, cs) ← twoDigits (cs.dropWhile fun c => c == ':' || isBlank c)
  let secs := h * 3600 + m * 60
  if m ≤ 59 && secs < 86400 then some (sign * (secs : Int), cs) else none

/-- A zone as its offset in seconds. -/
def zone (cs : List Char) : Option (Int × List Char) :=
  match skipBlank cs with
  | 'Z' :: rest | 'z' :: rest => some (0, rest)
  | '+' :: rest => offset 1 rest
  | '-' :: rest => offset (-1) rest
  | '−' :: rest => offset (-1) rest
  | a :: b :: c :: rest =>
    if [a, b, c].map Char.toUpper = ['U', 'T', 'C'] then some (0, rest) else none
  | _ => none

/-- The moment that a text names. -/
def read (s : String) : Option Moment := do
  let (d, cs) ← date s.toList
  let cs ←
    match cs with
    | 'T' :: rest | 't' :: rest | ' ' :: rest => some rest
    | _ => none
  let ((secs, ns), cs) ← time cs
  let (off, cs) ← zone cs
  if (skipBlank cs).isEmpty then some ⟨d.toDays * 86400 + (secs : Int) - off, ns⟩ else none

end Overseer.Time.Stamp
