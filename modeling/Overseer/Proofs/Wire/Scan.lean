import Overseer.Wire.Frame

/-!
# The lines of a buffer

A feed goes through its buffer with a cursor, takes one line at a time behind it, and drops all
taken bytes at once.  What this amounts to is said without a cursor: `splitLines` cuts the buffer at
its ends of line, and `Lines` says what such a cut is.

* `splitLines_append` : the lines of two parts in a row, in terms of what the first part leaves.
* `lines_splitLines`, `Lines.splitLines_eq` : every stream has lines, and only those that
  `splitLines` finds.
* `Feed.Passed.advance` : a round of the cursor passes one line with its end, and says what it
  holds.
* `Feed.push_eq` : **a chunk completes lines**: a feed hands out what the lines of its buffer hold,
  and keeps what follows the last one if it is not too long.
-/

namespace Overseer.Wire

open Json

/-! ### Lines -/

/-- The complete lines of a text, without their ends, and what follows the last one. -/
def splitLines : List UInt8 → List (List UInt8) × List UInt8 :=
  go [] []
where
  /-- Goes on behind the lines of `lines` and the bytes of `line`, both kept last first. -/
  go (lines : List (List UInt8)) (line : List UInt8) :
      List UInt8 → List (List UInt8) × List UInt8
    | [] => (lines.reverse, line.reverse)
    | b :: rest =>
      if b = lineFeed then go (line.reverse :: lines) [] rest else go lines (b :: line) rest

theorem splitLines_go_of_not_mem {w : List UInt8} (h : lineFeed ∉ w) (lines : List (List UInt8))
    (line : List UInt8) : splitLines.go lines line w = (lines.reverse, line.reverse ++ w) := by
  induction w generalizing line with
  | nil => rw [splitLines.go, List.append_nil]
  | cons b w ih =>
    have hb : b ≠ lineFeed := fun heq => h (heq ▸ List.mem_cons_self)
    rw [splitLines.go, if_neg hb, ih fun hw => h (List.mem_cons_of_mem _ hw)]
    simp

theorem splitLines_go_line {w : List UInt8} (h : lineFeed ∉ w) (lines : List (List UInt8))
    (line rest : List UInt8) :
    splitLines.go lines line (w ++ lineFeed :: rest) =
      splitLines.go ((line.reverse ++ w) :: lines) [] rest := by
  induction w generalizing line with
  | nil => rw [List.nil_append, splitLines.go, if_pos rfl, List.append_nil]
  | cons b w ih =>
    have hb : b ≠ lineFeed := fun heq => h (heq ▸ List.mem_cons_self)
    rw [List.cons_append, splitLines.go, if_neg hb, ih fun hw => h (List.mem_cons_of_mem _ hw)]
    simp

theorem splitLines_go_lines (lines : List (List UInt8)) (line bs : List UInt8) :
    splitLines.go lines line bs =
      (lines.reverse ++ (splitLines.go [] line bs).1, (splitLines.go [] line bs).2) := by
  induction bs generalizing lines line with
  | nil => simp [splitLines.go]
  | cons b rest ih =>
    rw [splitLines.go, splitLines.go]
    split
    · rw [ih, ih [line.reverse]]
      simp
    · exact ih lines (b :: line)

theorem splitLines_of_not_mem {w : List UInt8} (h : lineFeed ∉ w) : splitLines w = ([], w) :=
  splitLines_go_of_not_mem h [] []

theorem splitLines_line {w : List UInt8} (h : lineFeed ∉ w) (rest : List UInt8) :
    splitLines (w ++ lineFeed :: rest) = (w :: (splitLines rest).1, (splitLines rest).2) := by
  rw [splitLines, splitLines_go_line h, splitLines_go_lines]
  rfl

/-- Every stream is a list of lines with their ends, and a rest without. -/
theorem splitLines_cases (bs : List UInt8) :
    lineFeed ∉ bs ∨ ∃ w rest, lineFeed ∉ w ∧ bs = w ++ lineFeed :: rest := by
  by_cases h : lineFeed ∈ bs
  · obtain ⟨w, rest, rfl, hw⟩ := List.eq_append_cons_of_mem h
    exact .inr ⟨w, rest, hw, rfl⟩
  · exact .inl h

/-- **Where a stream is cut does not matter**: what the first part leaves belongs to the second. -/
theorem splitLines_append (a b : List UInt8) :
    splitLines (a ++ b) = ((splitLines a).1 ++ (splitLines ((splitLines a).2 ++ b)).1,
      (splitLines ((splitLines a).2 ++ b)).2) := by
  induction n : a.length using Nat.strongRecOn generalizing a with
  | _ n ih =>
    obtain h | ⟨w, rest, hw, rfl⟩ := splitLines_cases a
    · rw [splitLines_of_not_mem h]
      rfl
    · have := ih rest.length (by subst n; simp; omega) rest rfl
      rw [splitLines_line hw, List.append_assoc, List.cons_append, splitLines_line hw, this]
      rfl

/-- The complete lines of a stream, and what follows the last one. -/
structure Lines (bs : List UInt8) (lines : List (List UInt8)) (rest : List UInt8) : Prop where
  joined : bs = (lines.flatMap fun line => line ++ [lineFeed]) ++ rest
  whole : ∀ line ∈ lines, lineFeed ∉ line
  unended : lineFeed ∉ rest

variable {bs rest : List UInt8} {lines : List (List UInt8)}

theorem Lines.splitLines_eq (h : Lines bs lines rest) : splitLines bs = (lines, rest) := by
  obtain ⟨rfl, whole, unended⟩ := h
  induction lines with
  | nil => exact splitLines_of_not_mem unended
  | cons line lines ih =>
    obtain ⟨hline, hlines⟩ := List.forall_mem_cons.1 whole
    rw [List.flatMap_cons, List.append_assoc, List.append_assoc, List.singleton_append,
      splitLines_line hline, ih hlines]

theorem lines_splitLines (bs : List UInt8) : Lines bs (splitLines bs).1 (splitLines bs).2 := by
  induction n : bs.length using Nat.strongRecOn generalizing bs with
  | _ n ih =>
    obtain h | ⟨line, more, hline, rfl⟩ := splitLines_cases bs
    · rw [splitLines_of_not_mem h]
      exact ⟨rfl, nofun, h⟩
    · obtain ⟨joined, whole, unended⟩ := ih more.length (by subst n; simp; omega) more rfl
      rw [splitLines_line hline]
      refine ⟨?_, List.forall_mem_cons.2 ⟨hline, whole⟩, unended⟩
      rw [List.flatMap_cons, List.append_assoc, List.append_assoc, List.singleton_append, ← joined]

theorem not_mem_rest (bs : List UInt8) : lineFeed ∉ (splitLines bs).2 :=
  (lines_splitLines bs).unended

theorem dropLast_of_not_mem {b : UInt8} {line : List UInt8} (h : b ∉ line) :
    dropLast b line = line :=
  if_neg fun hlast => h (List.mem_of_getLast? hlast)

theorem trimLine_of_not_mem {line : List UInt8} (h : lineFeed ∉ line) :
    trimLine line = dropLast carriageReturn line := by
  rw [trimLine, dropLast_of_not_mem h]

/-! ### The cursor -/

theorem cut_of_idxOf? {b : UInt8} {bs : List UInt8} {n : Nat} (h : bs.idxOf? b = some n) :
    b ∉ bs.take n ∧ bs.take (n + 1) = bs.take n ++ [b] := by
  obtain ⟨hlt, hat, hbefore⟩ := List.findIdx?_eq_some_iff_getElem.1 h
  constructor
  · intro hmem
    obtain ⟨i, hi, hget⟩ := List.mem_take_iff_getElem.1 hmem
    exact hbefore i (by omega) (by simp [hget])
  · rw [List.take_add_one, List.getElem?_eq_getElem hlt, eq_of_beq hat]
    rfl

namespace Feed

variable {α : Type} {read : Decoder α} {limit : Nat} {buffer : List UInt8} {c next : Cursor α}

theorem lineYield_of_not_mem {line : List UInt8} (h : lineFeed ∉ line) :
    lineYield read limit line = if (dropLast carriageReturn line).isEmpty then []
      else [decodeLine read limit (dropLast carriageReturn line)] := by
  rw [lineYield, trimLine_of_not_mem h]

/-- The lines that a cursor has passed: it is inside the buffer, all bytes before it are these lines
with an end each, and what it said is what each of them holds, once and in order. -/
structure Passed (read : Decoder α) (limit : Nat) (buffer : List UInt8) (c : Cursor α)
    (lines : List (List UInt8)) : Prop where
  inside : c.consumed ≤ buffer.length
  bytes : buffer.take c.consumed = lines.flatMap fun line => line ++ [lineFeed]
  whole : ∀ line ∈ lines, lineFeed ∉ line
  said : c.said = lines.flatMap (lineYield read limit)

theorem passed_nil (read : Decoder α) (limit : Nat) (buffer : List UInt8) :
    Passed read limit buffer ⟨0, []⟩ [] := ⟨Nat.zero_le _, rfl, nofun, rfl⟩

/-- A round passes the bytes up to the next end of line, and that end. -/
theorem Passed.advance {lines : List (List UInt8)} (h : Passed read limit buffer c lines)
    (step : advance read limit buffer c = some next) :
    ∃ line, Passed read limit buffer next (lines ++ [line]) := by
  obtain ⟨offset, hoffset, rfl⟩ := advance_eq_some.1 step
  obtain ⟨hwhole, hended⟩ := cut_of_idxOf? hoffset
  have hline : buffer.extract c.consumed (c.consumed + offset) =
      (buffer.drop c.consumed).take offset := by
    rw [List.extract_eq_take_drop, Nat.add_sub_cancel_left]
  refine ⟨(buffer.drop c.consumed).take offset, consumed_lt_length hoffset, ?_, ?_, ?_⟩
  · rw [Nat.add_assoc, List.take_add, h.bytes, hended, List.flatMap_append, List.flatMap_singleton]
  · intro line hmem
    rcases List.mem_append.1 hmem with hmem | hmem
    · exact h.whole line hmem
    · obtain rfl := List.mem_singleton.1 hmem
      exact hwhole
  · rw [hline, h.said, List.flatMap_append, List.flatMap_singleton]

theorem not_mem_of_advance (stop : advance read limit buffer c = none) :
    lineFeed ∉ buffer.drop c.consumed := by
  unfold Feed.advance at stop
  split at stop
  · next h => exact List.idxOf?_eq_none_iff.1 h
  · cases stop

/-- The rounds end when no end of line is left behind the cursor. -/
theorem Passed.scan {lines : List (List UInt8)} (h : Passed read limit buffer c lines) :
    ∃ all, Passed read limit buffer (scan read limit buffer c) all ∧
      lineFeed ∉ buffer.drop (scan read limit buffer c).consumed := by
  induction c using scan.induct read limit buffer generalizing lines with
  | case1 c stop =>
    rw [Feed.scan, stop]
    exact ⟨lines, h, not_mem_of_advance stop⟩
  | case2 c next step ih =>
    obtain ⟨line, hnext⟩ := h.advance step
    rw [Feed.scan, step]
    exact ih hnext

theorem lines_scan (read : Decoder α) (limit : Nat) (buffer : List UInt8) :
    ∃ lines, Lines buffer lines (buffer.drop (scan read limit buffer ⟨0, []⟩).consumed) ∧
      (scan read limit buffer ⟨0, []⟩).said = lines.flatMap (lineYield read limit) := by
  obtain ⟨lines, h, unended⟩ := (passed_nil read limit buffer).scan
  refine ⟨lines, ⟨?_, h.whole, unended⟩, h.said⟩
  rw [← h.bytes, List.take_append_drop]

/-- **A chunk completes lines.**  What was kept and the chunk are cut into lines; of each line in
order it is handed out what it holds, and what follows the last one is kept or, if it is too long,
gone. -/
theorem push_eq (read : Decoder α) (f : Feed) (chunk : List UInt8) :
    f.push read chunk =
      let parts := splitLines (f.pending ++ chunk)
      let yielded := parts.1.flatMap (lineYield read f.limit)
      if f.limit < parts.2.length then
        ({ f with pending := [] }, yielded ++ [.error (.oversizedBuffer parts.2.length f.limit)])
      else ({ f with pending := parts.2 }, yielded) := by
  obtain ⟨lines, cut, said⟩ := lines_scan read f.limit (f.pending ++ chunk)
  simp only [push, cut.splitLines_eq, said]

end Feed

end Overseer.Wire
