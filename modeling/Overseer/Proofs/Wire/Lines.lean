import Overseer.Proofs.Wire.Stream

/-!
# Line by line

What the lines of a stream are does not need the way in which a feed finds them: `Lines` says it of
the bytes alone.  A stream whose lines keep to the limit is then read line by line, each line by
itself.

* `Feed.reads_each_line` : **each line by itself**: a frame or a fault for every line that is not
  empty, in order, however the stream is cut, and what follows the last line is kept for the end.
-/

namespace Overseer.Wire

open Json

variable {rest : List UInt8} {lines : List (List UInt8)}
variable {α : Type} {read : Decoder α} {limit : Nat} {line : List UInt8}

/-- A line by itself: nothing if it is empty but for its end, and otherwise what a frame with these
bytes holds. -/
def reading (read : Decoder α) (limit : Nat) (line : List UInt8) : Yield α :=
  if dropLast carriageReturn line = [] then [] else [decodeFrame read limit line]

theorem lineYield_eq_reading (h : lineFeed ∉ line) :
    Feed.lineYield read limit line = reading read limit line := by
  simp only [Feed.lineYield, reading, decodeFrame, trimLine_of_not_mem h, List.isEmpty_iff]

theorem length_dropLast_le (b : UInt8) (line : List UInt8) :
    (dropLast b line).length ≤ line.length := by
  unfold dropLast
  split
  · rw [List.length_dropLast]
    omega
  · exact Nat.le_refl _

/-- What a line within the limit holds: nothing if it is empty, else a frame or a fault of its
own. -/
inductive Reads (read : Decoder α) (line : List UInt8) : Yield α → Prop where
  | empty (h : dropLast carriageReturn line = []) : Reads read line []
  | frame {v} (h : dropLast carriageReturn line ≠ [])
      (hr : read.readDocument (dropLast carriageReturn line) = .ok v) : Reads read line [.ok v]
  | fault {why} (h : dropLast carriageReturn line ≠ [])
      (hr : read.readDocument (dropLast carriageReturn line) = .error why) :
      Reads read line [.error (.unreadable why)]

theorem reads_reading (h : lineFeed ∉ line) (hl : line.length ≤ limit) :
    Reads read line (reading read limit line) := by
  have hshort : ¬limit < (dropLast carriageReturn line).length :=
    Nat.not_lt.2 (Nat.le_trans (length_dropLast_le ..) hl)
  unfold reading
  split
  · next hempty => exact .empty hempty
  · next hne =>
    rw [decodeFrame, trimLine_of_not_mem h, decodeLine, if_neg hshort]
    split
    · next hr => exact .frame hne hr
    · next hr => exact .fault hne hr

namespace Feed

/-- **Each line by itself.**  Of a stream without long lines, however it is cut into chunks, a feed
hands out in order what each line holds: nothing for an empty one, and one frame or one fault for
any other, whatever stands around it.  It keeps what follows the last line, and the end of the
stream makes that a line as well. -/
theorem reads_each_line (read : Decoder α) {chunks : List (List UInt8)}
    (h : Lines chunks.flatten lines rest) (hlines : ∀ line ∈ lines, line.length ≤ limit)
    (hrest : rest.length ≤ limit) :
    (start limit).pushAll read chunks = (⟨limit, rest⟩, lines.flatMap (reading read limit)) ∧
      (Feed.mk limit rest).finish read = (start limit, reading read limit rest) ∧
      ∀ line ∈ lines ++ [rest], Reads read line (reading read limit line) := by
  have hsplit : splitLines ((start limit).pending ++ chunks.flatten) = (lines, rest) :=
    h.splitLines_eq
  have hwithin : Within limit ((start limit).pending ++ chunks.flatten) := by
    rw [Within, hsplit]
    exact ⟨hlines, hrest⟩
  refine ⟨?_, ?_, fun line hline => ?_⟩
  · rw [pushAll_of_within List.not_mem_nil hwithin, hsplit]
    refine Prod.ext rfl ?_
    have heach : lines.map (lineYield read limit) = lines.map (reading read limit) :=
      List.map_congr_left fun line hline => lineYield_eq_reading (h.whole line hline)
    exact congrArg List.flatten heach
  · exact Prod.ext rfl (lineYield_eq_reading h.unended)
  · rcases List.mem_append.1 hline with hline | hline
    · exact reads_reading (h.whole line hline) (hlines line hline)
    · obtain rfl := List.mem_singleton.1 hline
      exact reads_reading h.unended hrest

/-- A text, an empty line and a line that is no JSON, each with a carriage return, and a text
without an end of line. -/
def mixedLines : List (List UInt8) := ["\"a\"\r", "\r", "oops\r"].map Text.Utf8.encode

/-- Between good lines a bad one is a fault of its own, also if ends of line are cut in two. -/
theorem reads_each_line_of_mixed :
    let rest := Text.Utf8.encode "\"b\""
    let chunks := ["\"a", "\"\r", "\n\r\noo", "", "ps\r\n\"b\""].map Text.Utf8.encode
    (start 6).pushAll readText chunks =
        (⟨6, rest⟩, [.ok "a", .error (.unreadable .broken)]) ∧
      (Feed.mk 6 rest).finish readText = (start 6, [.ok "b"]) ∧
      ∀ line ∈ mixedLines ++ [rest], Reads readText line (reading readText 6 line) := by
  intro rest chunks
  have hlines : Lines chunks.flatten mixedLines rest :=
    ⟨by decide +kernel, by decide +kernel, by decide +kernel⟩
  have h := @reads_each_line _ _ _ 6 readText _ hlines (by decide +kernel) (by decide +kernel)
  have hheld : mixedLines.flatMap (reading readText 6) =
      [.ok "a", .error (.unreadable .broken)] := by rfl
  have hlast : reading readText 6 rest = [.ok "b"] := by rfl
  rw [hheld, hlast] at h
  exact h

end Feed

end Overseer.Wire
