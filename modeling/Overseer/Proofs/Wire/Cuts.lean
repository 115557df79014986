import Mathlib.Data.List.Forall2
import Overseer.Proofs.Wire.Stream

/-!
# Cuts of a stream

What a feed hands out of a stream from the first chunk to the end depends on how the stream is cut
in one way only.  A line that comes with its end is read or passed over as a whole.  What a chunk
leaves without an end of line is thrown away when it is longer than the limit, and then what comes
behind it is read as a line of its own, so of a long line an end is heard that the cut decides.

* `Heard` : what may be heard of a line: all of it, or what is left once more than the limit of it
  was thrown away.
* `Feed.heard_readAll` : what a feed hands out in the middle of a line of which a part is gone.
* `Feed.frames_of_cut` : **the frames of a stream**: of every line that keeps to the limit what it
  holds, however the stream is cut, and of a longer line what an end of it holds.
* `Feed.frames_depend_on_cut` : a longer line that is cut is not passed over.
-/

namespace Overseer.Wire

open Json Batch

/-- The lines of a stream, with the one that the end of the stream ends. -/
def allLines (bs : List UInt8) : List (List UInt8) := (splitLines bs).1 ++ [(splitLines bs).2]

theorem allLines_append (a b : List UInt8) :
    allLines (a ++ b) = (splitLines a).1 ++ allLines ((splitLines a).2 ++ b) := by
  rw [allLines, splitLines_append, allLines, List.append_assoc]

theorem allLines_of_not_mem {w : List UInt8} (h : lineFeed ∉ w) : allLines w = [w] := by
  rw [allLines, splitLines_of_not_mem h]
  rfl

/-- What may be heard of a line: all of it, or what is left once more than the limit of it was
thrown away. -/
def Heard (limit : Nat) (line part : List UInt8) : Prop :=
  part = line ∨ ∃ gone, line = gone ++ part ∧ limit < gone.length

theorem Heard.eq {limit : Nat} {line part : List UInt8} (h : Heard limit line part)
    (hl : line.length ≤ limit) : part = line := by
  rcases h with rfl | ⟨gone, rfl, hg⟩
  · rfl
  · rw [List.length_append] at hl
    omega

theorem heard_refl (limit : Nat) (lines : List (List UInt8)) :
    List.Forall₂ (Heard limit) lines lines :=
  List.forall₂_same.2 fun _ _ => .inl rfl

theorem eq_of_heard {limit : Nat} {lines parts : List (List UInt8)}
    (h : List.Forall₂ (Heard limit) lines parts) (hl : ∀ line ∈ lines, line.length ≤ limit) :
    parts = lines := by
  induction h with
  | nil => rfl
  | cons h _ ih =>
    rw [List.forall_mem_cons] at hl
    rw [h.eq hl.1, ih hl.2]

/-! ### A line of which a part is gone -/

/-- Nothing of a line is gone, or more than the limit. -/
def Gone (limit : Nat) (gone : List UInt8) : Prop :=
  lineFeed ∉ gone ∧ (gone = [] ∨ limit < gone.length)

theorem gone_nil (limit : Nat) : Gone limit [] := ⟨List.not_mem_nil, .inl rfl⟩

theorem Gone.heard {limit : Nat} {gone : List UInt8} (h : Gone limit gone) (part : List UInt8) :
    Heard limit (gone ++ part) part := by
  rcases h.2 with rfl | hlong
  · exact .inl rfl
  · exact .inr ⟨gone, rfl, hlong⟩

/-- Lines behind what is gone of the first one, which may be the last one as well. -/
theorem Gone.splitLines {limit : Nat} {gone : List UInt8} (h : Gone limit gone) (bs : List UInt8) :
    ∃ gone', Gone limit gone' ∧
      (splitLines (gone ++ bs)).2 = gone' ++ (splitLines bs).2 ∧
      List.Forall₂ (Heard limit) (splitLines (gone ++ bs)).1 (splitLines bs).1 := by
  obtain hbs | ⟨w, rest, hw, rfl⟩ := splitLines_cases bs
  · have hall : lineFeed ∉ gone ++ bs := by simp [h.1, hbs]
    rw [splitLines_of_not_mem hall, splitLines_of_not_mem hbs]
    exact ⟨gone, h, rfl, .nil⟩
  · have hall : lineFeed ∉ gone ++ w := by simp [h.1, hw]
    rw [← List.append_assoc, splitLines_line hall, splitLines_line hw]
    exact ⟨[], gone_nil limit, rfl, .cons (h.heard w) (heard_refl limit _)⟩

section Frames

variable {α : Type}

@[simp] theorem frames_append (y z : Yield α) : frames (y ++ z) = frames y ++ frames z :=
  List.filterMap_append

theorem frames_flatMap {β : Type} (l : List β) (f : β → Yield α) :
    frames (l.flatMap f) = l.flatMap fun x => frames (f x) := by
  induction l with
  | nil => rfl
  | cons x l ih => rw [List.flatMap_cons, List.flatMap_cons, frames_append, ih]

end Frames

namespace Feed

variable {α : Type} {read : Decoder α}

/-- All that a stream holds from here to its end, taken chunk by chunk. -/
def readAll (read : Decoder α) (f : Feed) (chunks : List (List UInt8)) : Yield α :=
  (f.pushAll read chunks).2 ++ ((f.pushAll read chunks).1.finish read).2

theorem readAll_cons (f : Feed) (chunk : List UInt8) (rest : List (List UInt8)) :
    f.readAll read (chunk :: rest) =
      (f.push read chunk).2 ++ (f.push read chunk).1.readAll read rest := by
  rw [readAll, pushAll, readAll, List.append_assoc]

/-- The frames that a chunk completes are those of its lines, whatever becomes of what follows the
last one. -/
theorem frames_push (f : Feed) (chunk : List UInt8) :
    frames (f.push read chunk).2 = (splitLines (f.pending ++ chunk)).1.flatMap fun line =>
      frames (lineYield read f.limit line) := by
  rw [push_eq]
  dsimp only
  split
  · rw [frames_append, frames_flatMap]
    exact List.append_nil _
  · exact frames_flatMap ..

/-- **In the middle of a line** of which a part is gone, a feed hands out what it hears of each line
to come. -/
theorem heard_readAll {f : Feed} {gone : List UInt8} (hg : Gone f.limit gone)
    (clean : lineFeed ∉ f.pending) (chunks : List (List UInt8)) :
    ∃ parts, List.Forall₂ (Heard f.limit) (allLines (gone ++ f.pending ++ chunks.flatten)) parts ∧
      frames (f.readAll read chunks) =
        parts.flatMap fun part => frames (lineYield read f.limit part) := by
  induction chunks generalizing f gone with
  | nil =>
    have hall : lineFeed ∉ gone ++ f.pending := by simp [hg.1, clean]
    refine ⟨[f.pending], ?_, ?_⟩
    · rw [List.flatten_nil, List.append_nil, allLines_of_not_mem hall]
      exact .cons (hg.heard _) .nil
    · rw [List.flatMap_singleton]
      rfl
  | cons chunk rest ih =>
    obtain ⟨gone', hg', hlast, hlines⟩ := hg.splitLines (f.pending ++ chunk)
    -- what is left of the chunk is kept, or gone as well
    obtain ⟨gone'', hg'', hkept, hclean, hlimit⟩ : ∃ gone'', Gone f.limit gone'' ∧
        gone' ++ (splitLines (f.pending ++ chunk)).2 = gone'' ++ (f.push read chunk).1.pending ∧
        lineFeed ∉ (f.push read chunk).1.pending ∧ (f.push read chunk).1.limit = f.limit := by
      rw [push_eq]
      dsimp only
      split
      · next hlong =>
        refine ⟨gone' ++ (splitLines (f.pending ++ chunk)).2, ⟨?_, .inr ?_⟩, ?_, ?_, rfl⟩
        · simp [hg'.1, not_mem_rest]
        · rw [List.length_append]
          omega
        · exact (List.append_nil _).symm
        · exact List.not_mem_nil
      · exact ⟨gone', hg', rfl, not_mem_rest _, rfl⟩
    obtain ⟨parts, hparts, hframes⟩ := ih (hlimit.symm ▸ hg'') hclean
    refine ⟨(splitLines (f.pending ++ chunk)).1 ++ parts, ?_, ?_⟩
    · rw [List.flatten_cons, List.append_assoc, ← List.append_assoc f.pending,
        ← List.append_assoc gone, allLines_append, hlast, hkept]
      rw [hlimit] at hparts
      exact List.rel_append hlines hparts
    · rw [readAll_cons, frames_append, frames_push, hframes, List.flatMap_append, hlimit]

/-- **The frames of a stream.**  Of each of its lines in order, with the one that the end of the
stream ends, a feed hears all or, if the line is longer than the limit, what is left once more than
the limit of it was thrown away, and it hands out what it hears.  So of a stream whose lines keep to
the limit it hands out the same frames however the stream is cut. -/
theorem frames_of_cut (read : Decoder α) (limit : Nat) (chunks : List (List UInt8)) :
    (∃ parts, List.Forall₂ (Heard limit) (allLines chunks.flatten) parts ∧
      frames ((start limit).readAll read chunks) =
        parts.flatMap fun part => frames (lineYield read limit part)) ∧
      ((∀ line ∈ allLines chunks.flatten, line.length ≤ limit) →
        ∀ chunks' : List (List UInt8), chunks'.flatten = chunks.flatten →
          frames ((start limit).readAll read chunks') =
            frames ((start limit).readAll read chunks)) := by
  have hall : ∀ chunks : List (List UInt8),
      ∃ parts, List.Forall₂ (Heard limit) (allLines chunks.flatten) parts ∧
        frames ((start limit).readAll read chunks) =
          parts.flatMap fun part => frames (lineYield read limit part) := fun chunks =>
    heard_readAll (f := start limit) (gone_nil limit) List.not_mem_nil chunks
  refine ⟨hall chunks, fun hshort chunks' hsame => ?_⟩
  obtain ⟨parts, hparts, hframes⟩ := hall chunks
  obtain ⟨parts', hparts', hframes'⟩ := hall chunks'
  rw [hsame] at hparts'
  rw [hframes, hframes', eq_of_heard hparts hshort, eq_of_heard hparts' hshort]

/-! ### A long line that is cut -/

variable {limit : Nat} {gone w : List UInt8}

theorem readAll_line (hw : lineFeed ∉ w) :
    (start limit).readAll read [w ++ [lineFeed]] = lineYield read limit w := by
  have hpush : (start limit).push read (w ++ [lineFeed]) =
      (start limit, lineYield read limit w) := by
    rw [push_eq, start, List.nil_append, splitLines_line hw]
    exact (if_neg (Nat.not_lt_zero _)).trans (Prod.ext rfl (List.append_nil _))
  rw [readAll_cons, hpush]
  exact List.append_nil _

/-- **An end of a long line is read as a line of its own**, if the line is cut behind the limit. -/
theorem readAll_cut (hg : lineFeed ∉ gone) (hl : limit < gone.length) (hw : lineFeed ∉ w) :
    (start limit).readAll read [gone, w ++ [lineFeed]] =
      .error (.oversizedBuffer gone.length limit) :: lineYield read limit w := by
  have hpush : (start limit).push read gone =
      (start limit, [.error (.oversizedBuffer gone.length limit)]) := by
    rw [push_eq, start, List.nil_append, splitLines_of_not_mem hg]
    exact if_pos hl
  rw [readAll_cons, hpush, readAll_line hw]
  rfl

theorem frames_lineYield_of_long (hw : lineFeed ∉ w)
    (hl : limit < (dropLast carriageReturn w).length) : frames (lineYield read limit w) = [] := by
  have hne : ¬(dropLast carriageReturn w).isEmpty := fun hempty => by
    rw [List.isEmpty_iff.1 hempty] at hl
    exact Nat.not_lt_zero _ hl
  rw [lineYield_of_not_mem hw, if_neg hne, decodeLine, if_pos hl]
  rfl

/-- The question for the status in a run. -/
def question : Envelope := ⟨1, "c", "t", none, .statusRequest 4⟩

/-- **The frames of a stream depend on how it is cut.**  The end of a line of more than twice the
limit is handed out as a frame if the line is cut before it, and a line of exactly the limit is lost
if it is cut between the two bytes of its end. -/
theorem frames_depend_on_cut :
    let line := question.toValue.write
    let limit := line.length
    let long := List.replicate (limit + 1) 120 ++ line
    (frames ((start limit).readAll Envelope.read [long ++ [lineFeed]]) = [] ∧
      frames ((start limit).readAll Envelope.read
        [List.replicate (limit + 1) 120, line ++ [lineFeed]]) = [question]) ∧
      frames ((start limit).readAll Envelope.read [line ++ [carriageReturn, lineFeed]]) =
        [question] ∧
      frames ((start limit).readAll Envelope.read [line ++ [carriageReturn], [lineFeed]]) = [] := by
  intro line limit long
  have hline : lineFeed ∉ line := by decide +kernel
  have hlong : lineFeed ∉ long := by decide +kernel
  have hx : lineFeed ∉ List.replicate (limit + 1) 120 := by decide +kernel
  have hvalid : question.Valid := ⟨by decide, show Fits 64 4 by decide⟩
  have hread : lineYield Envelope.read limit line = [.ok question] :=
    lineYield_write hvalid question.writtenAs_toValue (by decide +kernel) (Nat.le_refl _)
  have hreturn : lineYield Envelope.read limit (line ++ [carriageReturn]) = [.ok question] := by
    rw [← hread, lineYield, lineYield]
    have h : trimLine (line ++ [carriageReturn]) = trimLine line := by decide +kernel
    rw [h]
  refine ⟨⟨?_, ?_⟩, ?_, ?_⟩
  · rw [readAll_line hlong]
    exact frames_lineYield_of_long hlong (by decide +kernel)
  · rw [readAll_cut hx (by simp) hline, hread]
    rfl
  · have hclean : lineFeed ∉ line ++ [carriageReturn] := by decide +kernel
    rw [List.append_cons, readAll_line hclean, hreturn]
    rfl
  · have hclean : lineFeed ∉ line ++ [carriageReturn] := by decide +kernel
    rw [← List.nil_append [lineFeed], readAll_cut hclean (by simp [limit]) List.not_mem_nil]
    rfl

end Feed

end Overseer.Wire
