import Mathlib.Data.List.Forall2
import Overseer.Proofs.Wire.Lines

/-!
# Chunk by chunk

What one chunk does to a feed, whatever its bytes are.  The bytes that were kept, with the chunk
behind them, are lines and a rest.  What is said of a line follows from its content alone, and what
becomes of the rest from its length.

* `judges_iff` : of a line a feed says what its content calls for.
* `Feed.push_eq_iff` : **a chunk is taken** line by line, in one way only.
* `Feed.reached_iff` : what a feed can keep between chunks: anything without an end of line that is
  within the limit.
* `Feed.accounts_for_each_byte` : both together: in each state that it can be in, a feed accounts
  for every byte of a chunk once, and is in such a state again.
-/

namespace Overseer.Wire

open Json

variable {α : Type} {read : Decoder α} {limit : Nat} {line content : List UInt8} {y : Yield α}

/-! ### A line -/

/-- The content of a line: all of it but for one carriage return at its end. -/
inductive Content : List UInt8 → List UInt8 → Prop where
  | returned (content : List UInt8) : Content (content ++ [carriageReturn]) content
  | plain {line : List UInt8} (h : line.getLast? ≠ some carriageReturn) : Content line line

theorem content_iff : Content line content ↔ dropLast carriageReturn line = content := by
  constructor
  · intro h
    cases h with
    | returned =>
      rw [dropLast, if_pos List.getLast?_concat]
      exact List.dropLast_concat
    | plain h => exact if_neg h
  · rintro rfl
    unfold dropLast
    split
    · next hlast =>
      have h := Content.returned line.dropLast
      rwa [List.dropLast_append_getLast? _ hlast] at h
    · next hlast => exact .plain hlast

/-- What there is to say of a complete line: nothing if it has no content, its length if its content
is longer than the limit, and otherwise the frame that it holds or why it holds none. -/
inductive Judges (read : Decoder α) (limit : Nat) (line : List UInt8) : Yield α → Prop where
  | empty (h : Content line []) : Judges read limit line []
  | long {content : List UInt8} (h : Content line content) (hl : limit < content.length) :
      Judges read limit line [.error (.oversizedFrame content.length limit)]
  | frame {content : List UInt8} {v : α} (h : Content line content) (hne : content ≠ [])
      (hl : content.length ≤ limit) (hr : read.readDocument content = .ok v) :
      Judges read limit line [.ok v]
  | fault {content : List UInt8} {why : ReadError} (h : Content line content) (hne : content ≠ [])
      (hl : content.length ≤ limit) (hr : read.readDocument content = .error why) :
      Judges read limit line [.error (.unreadable why)]

theorem lineYield_of_content (hw : lineFeed ∉ line) (h : Content line content)
    (hne : content ≠ []) :
    Feed.lineYield read limit line = [decodeLine read limit content] := by
  rw [Feed.lineYield_of_not_mem hw, content_iff.1 h]
  exact if_neg (mt List.isEmpty_iff.1 hne)

/-- **Of a line a feed says what its content calls for**, and nothing else. -/
theorem judges_iff (hw : lineFeed ∉ line) :
    Judges read limit line y ↔ Feed.lineYield read limit line = y := by
  constructor
  · intro h
    cases h with
    | empty h =>
      rw [Feed.lineYield_of_not_mem hw, content_iff.1 h]
      rfl
    | long h hl =>
      have hne := List.ne_nil_of_length_pos (Nat.zero_lt_of_lt hl)
      rw [lineYield_of_content hw h hne, decodeLine, if_pos hl]
    | frame h hne hl hr =>
      rw [lineYield_of_content hw h hne, decodeLine, if_neg (Nat.not_lt.2 hl), hr]
    | fault h hne hl hr =>
      rw [lineYield_of_content hw h hne, decodeLine, if_neg (Nat.not_lt.2 hl), hr]
  · rintro rfl
    -- a feed asks for what a verdict depends on: is there content, is it too long, can it be read
    have h := content_iff.2 (Eq.refl (dropLast carriageReturn line))
    by_cases hne : dropLast carriageReturn line = []
    · rw [hne] at h
      rw [Feed.lineYield_of_not_mem hw, hne]
      exact .empty h
    · rw [lineYield_of_content hw h hne, decodeLine]
      split
      · next hl => exact .long h hl
      · next hl =>
        split
        · next hr => exact .frame h hne (Nat.not_lt.1 hl) hr
        · next hr => exact .fault h hne (Nat.not_lt.1 hl) hr

theorem forall₂_judges_iff {lines : List (List UInt8)} (whole : ∀ line ∈ lines, lineFeed ∉ line)
    {said : List (Yield α)} :
    List.Forall₂ (Judges read limit) lines said ↔
      lines.map (Feed.lineYield read limit) = said := by
  induction lines generalizing said with
  | nil => rw [List.forall₂_nil_left_iff, List.map_nil, eq_comm]
  | cons line lines ih =>
    obtain ⟨hline, hlines⟩ := List.forall_mem_cons.1 whole
    rw [List.forall₂_cons_left_iff, List.map_cons]
    constructor
    · rintro ⟨y, others, h, hothers, rfl⟩
      rw [(judges_iff hline).1 h, (ih hlines).1 hothers]
    · rintro rfl
      exact ⟨_, _, (judges_iff hline).2 rfl, (ih hlines).2 rfl, rfl⟩

/-! ### What follows the last line -/

/-- What becomes of the bytes behind the last end of line: they are kept if they are within the
limit, and otherwise their number is said and they are gone. -/
inductive Leaves (limit : Nat) (rest : List UInt8) : List UInt8 → Yield α → Prop where
  | kept (h : rest.length ≤ limit) : Leaves limit rest rest []
  | gone (h : limit < rest.length) :
      Leaves limit rest [] [.error (.oversizedBuffer rest.length limit)]

namespace Feed

variable {f g : Feed} {chunk : List UInt8}

/-- How a feed takes a chunk: what it kept and the chunk are cut into lines and a rest, something is
said of each line in order, and at last of the rest if that is not kept.  So no byte is left out,
and none counts for two lines. -/
inductive Takes (read : Decoder α) (f : Feed) (chunk : List UInt8) : Feed → Yield α → Prop where
  | intro {lines rest said kept last} (cut : Lines (f.pending ++ chunk) lines rest)
      (each : List.Forall₂ (Judges read f.limit) lines said)
      (left : Leaves f.limit rest kept last) :
      Takes read f chunk ⟨f.limit, kept⟩ (said.flatten ++ last)

/-- The cursor comes to the last end of line, and the bytes behind it are what is left. -/
theorem takes_push (read : Decoder α) (f : Feed) (chunk : List UInt8) :
    Takes read f chunk (f.push read chunk).1 (f.push read chunk).2 := by
  obtain ⟨lines, cut, said⟩ := lines_scan read f.limit (f.pending ++ chunk)
  have each := (@forall₂_judges_iff _ read f.limit _ cut.whole _).2 rfl
  simp only [push, said, List.flatMap_def]
  split
  · next hl => exact .intro cut each (.gone hl)
  · next hl =>
    have h := Takes.intro cut each (.kept (Nat.not_lt.1 hl))
    rwa [List.append_nil] at h

theorem Takes.push_eq (h : Takes read f chunk g y) : f.push read chunk = (g, y) := by
  cases h with
  | intro cut each left =>
    have said := (forall₂_judges_iff cut.whole).1 each
    simp only [Feed.push_eq, cut.splitLines_eq, List.flatMap_def, said]
    cases left with
    | kept hl => rw [if_neg (Nat.not_lt.2 hl), List.append_nil]
    | gone hl => rw [if_pos hl]

/-- **A chunk is taken** line by line, and in one way only. -/
theorem push_eq_iff : f.push read chunk = (g, y) ↔ Takes read f chunk g y := by
  constructor
  · intro h
    have := takes_push read f chunk
    rwa [h] at this
  · exact Takes.push_eq

/-! ### Between chunks -/

/-- Between chunks a feed keeps no end of line, and no more than the limit. -/
structure Settled (f : Feed) : Prop where
  unended : lineFeed ∉ f.pending
  short : f.pending.length ≤ f.limit

/-- The states that a feed with this limit can be in. -/
inductive Reached (read : Decoder α) (limit : Nat) : Feed → Prop where
  | start : Reached read limit (start limit)
  | push {f : Feed} (h : Reached read limit f) (chunk : List UInt8) :
      Reached read limit (f.push read chunk).1
  | finish {f : Feed} (h : Reached read limit f) : Reached read limit (f.finish read).1

theorem settled_start (limit : Nat) : (start limit).Settled :=
  ⟨List.not_mem_nil, Nat.zero_le limit⟩

theorem Takes.limit_eq (h : Takes read f chunk g y) : g.limit = f.limit := by
  cases h
  rfl

theorem Takes.settled (h : Takes read f chunk g y) : g.Settled := by
  cases h with
  | intro cut each left =>
    cases left with
    | kept hl => exact ⟨cut.unended, hl⟩
    | gone => exact settled_start f.limit

theorem Reached.settled (h : Reached read limit f) : f.limit = limit ∧ f.Settled := by
  induction h with
  | start => exact ⟨rfl, settled_start limit⟩
  | @push f _ chunk ih =>
    -- what was kept before does not matter here, only the limit is the same
    have h := takes_push read f chunk
    exact ⟨h.limit_eq.trans ih.1, h.settled⟩
  | @finish f _ ih => exact ⟨ih.1, settled_start f.limit⟩

/-- What a settled feed keeps is what a new one keeps of it as its first chunk. -/
theorem Settled.push_start (h : f.Settled) : (start f.limit).push read f.pending = (f, []) := by
  have cut : Lines ((start f.limit).pending ++ f.pending) [] f.pending := ⟨rfl, nofun, h.unended⟩
  exact (Takes.intro cut .nil (.kept h.short)).push_eq

/-- **The states of a feed**: between chunks it can keep anything without an end of line that is
within the limit, and nothing else. -/
theorem reached_iff : Reached read limit f ↔ f.limit = limit ∧ f.Settled := by
  constructor
  · exact Reached.settled
  · rintro ⟨rfl, h⟩
    -- one chunk brings a new feed into any settled state
    have new : Reached read f.limit (start f.limit) := .start
    have := new.push f.pending
    rwa [h.push_start] at this

/-- **Every byte of a chunk counts once.**  In each state that a feed can be in, which are the
settled ones, a chunk is cut into lines behind what was kept; of each line in order nothing is said,
or its length, or the one frame or fault that it holds; and what follows the last line is kept if it
is within the limit, and otherwise gone with a last fault that says how long it was.  Then the feed
is settled again. -/
theorem accounts_for_each_byte (read : Decoder α) (f : Feed) :
    (∀ limit : Nat, Reached read limit f ↔ f.limit = limit ∧ f.Settled) ∧
      ∀ chunk : List UInt8,
        (∀ (g : Feed) (y : Yield α), f.push read chunk = (g, y) ↔ Takes read f chunk g y) ∧
          (f.push read chunk).1.Settled := by
  refine ⟨fun limit => reached_iff, fun chunk => ⟨fun g y => push_eq_iff, ?_⟩⟩
  exact (takes_push read f chunk).settled

/-- The end of a text that was begun, an empty line, a text that is too long, a line that is no
JSON, and a rest that is too long. -/
example : (Feed.mk 5 (Text.Utf8.encode "\"a")).push readText
      (Text.Utf8.encode "\"\r\n\r\n\"abcd\"\noops\r\n\"toolong") =
    (start 5, [.ok "a", .error (.oversizedFrame 6 5), .error (.unreadable .broken),
      .error (.oversizedBuffer 8 5)]) := by
  rw [push_eq]
  rfl

end Feed

end Overseer.Wire
