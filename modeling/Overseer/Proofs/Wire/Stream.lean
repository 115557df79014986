import Overseer.Proofs.Wire.Envelopes
import Overseer.Proofs.Wire.Scan

/-!
# Streams of frames

A stream of bytes is cut into lines at its ends of line, and into chunks anywhere.  A feed takes it
chunk by chunk and keeps what has no end of line yet.

* `Feed.pushAll_of_within` : on a stream without long lines a feed hands out what its lines hold,
  however the stream is cut.
* `Feed.pushAll_frames` : **frames arrive**: of a stream of frames, all envelopes are handed out in
  order, and nothing else, in whatever order their maps were written.
-/

namespace Overseer.Wire

open Json Batch

/-- No line of a stream is longer than the limit, and what follows the last one is not, either. -/
def Within (limit : Nat) (bs : List UInt8) : Prop :=
  (∀ line ∈ (splitLines bs).1, line.length ≤ limit) ∧ (splitLines bs).2.length ≤ limit

theorem Within.length_le {limit : Nat} {w bs : List UInt8} (h : Within limit (w ++ bs))
    (hw : lineFeed ∉ w) : w.length ≤ limit := by
  obtain hbs | ⟨v, rest, hv, rfl⟩ := splitLines_cases bs
  · have hall : lineFeed ∉ w ++ bs := by simp [hw, hbs]
    have := h.2
    rw [splitLines_of_not_mem hall, List.length_append] at this
    omega
  · have hline : lineFeed ∉ w ++ v := by simp [hw, hv]
    have := h.1 (w ++ v) (by
      rw [← List.append_assoc, splitLines_line hline]
      exact List.mem_cons_self)
    rw [List.length_append] at this
    omega

/-! ### Feeds -/

namespace Feed

variable {α : Type} {read : Decoder α}

/-- **On a stream without long lines** a feed hands out what its lines hold, however the stream is
cut into chunks, and keeps what follows the last line. -/
theorem pushAll_of_within {chunks : List (List UInt8)} {f : Feed} (clean : lineFeed ∉ f.pending)
    (h : Within f.limit (f.pending ++ chunks.flatten)) :
    f.pushAll read chunks =
      ({ f with pending := (splitLines (f.pending ++ chunks.flatten)).2 },
        (splitLines (f.pending ++ chunks.flatten)).1.flatMap (lineYield read f.limit)) := by
  induction chunks generalizing f with
  | nil =>
    rw [pushAll, List.flatten_nil, List.append_nil, splitLines_of_not_mem clean]
    rfl
  | cons chunk rest ih =>
    rw [List.flatten_cons, ← List.append_assoc] at h ⊢
    have cut := splitLines_append (f.pending ++ chunk) rest.flatten
    -- what is left of the chunk begins a line of the stream, so it is not too long
    have tail : Within f.limit ((splitLines (f.pending ++ chunk)).2 ++ rest.flatten) := by
      obtain ⟨lines, last⟩ := h
      rw [cut] at lines last
      exact ⟨fun line hl => lines line (List.mem_append_right _ hl), last⟩
    have short := tail.length_le (not_mem_rest _)
    have one : f.push read chunk =
        ({ f with pending := (splitLines (f.pending ++ chunk)).2 },
          (splitLines (f.pending ++ chunk)).1.flatMap (lineYield read f.limit)) := by
      rw [push_eq]
      exact if_neg (Nat.not_lt.2 short)
    rw [pushAll, one, ih (not_mem_rest _) tail, cut, List.flatMap_append]

end Feed

/-! ### Streams of envelopes -/

theorem encodeFrame_eq_ok {v : Value} {limit : Nat} {frame : List UInt8} :
    encodeFrame v limit = .ok frame ↔ v.write.length ≤ limit ∧ frame = v.write ++ [lineFeed] := by
  rw [encodeFrame]
  split
  · next h => simp [Nat.not_le.2 h]
  · next h => simp [Nat.not_lt.1 h, eq_comm]

/-- Values have frames if they are short enough, and their frames are their lines with an end
each. -/
theorem mapM_encodeFrame_eq_ok {limit : Nat} {vs : List Value} {frames : List (List UInt8)} :
    vs.mapM (encodeFrame · limit) = .ok frames ↔
      (∀ v ∈ vs, v.write.length ≤ limit) ∧ frames = vs.map fun v => v.write ++ [lineFeed] := by
  induction vs generalizing frames with
  | nil => simp [pure, Except.pure, eq_comm]
  | cons v vs ih =>
    rw [List.mapM_cons, List.forall_mem_cons]
    constructor
    · intro h
      cases hv : encodeFrame v limit with
      | error e =>
        rw [hv] at h
        cases h
      | ok frame =>
        cases hvs : vs.mapM (encodeFrame · limit) with
        | error e =>
          rw [hv, hvs] at h
          cases h
        | ok rest =>
          rw [hv, hvs] at h
          cases h
          obtain ⟨short, rfl⟩ := encodeFrame_eq_ok.1 hv
          obtain ⟨others, rfl⟩ := ih.1 hvs
          exact ⟨⟨short, others⟩, rfl⟩
    · rintro ⟨⟨short, others⟩, rfl⟩
      rw [encodeFrame_eq_ok.2 ⟨short, rfl⟩, ih.2 ⟨others, rfl⟩]
      rfl

theorem splitLines_frames {vs : List Value} (whole : ∀ v ∈ vs, v.integral) :
    splitLines (vs.map fun v => v.write ++ [lineFeed]).flatten = (vs.map Value.write, []) := by
  induction vs with
  | nil => rfl
  | cons v vs ih =>
    obtain ⟨hv, hvs⟩ := List.forall_mem_cons.1 whole
    -- an end of line is a control character, so a value has none inside
    have clean : lineFeed ∉ v.write := fun hmem =>
      absurd (printable_write v hv lineFeed hmem) (by decide)
    rw [List.map_cons, List.flatten_cons, List.append_assoc, List.singleton_append,
      splitLines_line clean, ih hvs, List.map_cons]

section Written

variable {e : Envelope} {v : Value} {limit : Nat}

theorem lineYield_write (valid : e.Valid) (written : e.WrittenAs v) (deep : v.depth < 128)
    (short : v.write.length ≤ limit) :
    Feed.lineYield Envelope.read limit v.write = [.ok e] := by
  have trim : trimLine v.write = v.write := by
    -- both ends of line are control characters
    have printable := printable_write _ (Envelope.integral_of_writtenAs valid written)
    rw [trimLine, dropLast_of_not_mem fun h => absurd (printable _ h) (by decide),
      dropLast_of_not_mem fun h => absurd (printable _ h) (by decide)]
  have line : ¬v.write.isEmpty := by
    obtain ⟨payload, -, rfl⟩ := written
    rw [Envelope.toValueIn, List.append_assoc, List.cons_append, Value.write]
    exact Bool.false_ne_true
  rw [Feed.lineYield, trim]
  simp only [if_neg line, decodeLine, if_neg (Nat.not_lt.2 short),
    Envelope.readDocument_write valid written deep]

end Written

theorem flatMap_lineYield_write {limit : Nat} {es : List Envelope} {vs : List Value}
    (valid : ∀ e ∈ es, e.Valid) (written : List.Forall₂ Envelope.WrittenAs es vs)
    (deep : ∀ v ∈ vs, v.depth < 128) (short : ∀ v ∈ vs, v.write.length ≤ limit) :
    (vs.map Value.write).flatMap (Feed.lineYield Envelope.read limit) = es.map .ok := by
  induction written with
  | nil => rfl
  | cons one others ih =>
    rw [List.forall_mem_cons] at valid deep short
    rw [List.map_cons, List.flatMap_cons, lineYield_write valid.1 one deep.1 short.1,
      ih valid.2 deep.2 short.2]
    rfl

theorem integral_of_forall₂_writtenAs {es : List Envelope} {vs : List Value}
    (valid : ∀ e ∈ es, e.Valid) (written : List.Forall₂ Envelope.WrittenAs es vs) :
    ∀ v ∈ vs, v.integral := by
  induction written with
  | nil => exact nofun
  | cons one others ih =>
    rw [List.forall_mem_cons] at valid ⊢
    exact ⟨Envelope.integral_of_writtenAs valid.1 one, ih valid.2⟩

/-- **Frames arrive.**  Envelopes are written one after the other, each in one of the ways in which
it may be written, as the order of its maps is open.  Of a stream of their frames, however it is cut
into chunks, a feed with the limit of the frames hands out all envelopes in order and nothing else,
and keeps nothing. -/
theorem Feed.pushAll_frames {limit : Nat} {es : List Envelope} {vs : List Value}
    {frames chunks : List (List UInt8)} (valid : ∀ e ∈ es, e.Valid)
    (written : List.Forall₂ Envelope.WrittenAs es vs) (deep : ∀ v ∈ vs, v.depth < 128)
    (encoded : vs.mapM (encodeFrame · limit) = .ok frames)
    (cut : chunks.flatten = frames.flatten) :
    (Feed.start limit).pushAll Envelope.read chunks = (Feed.start limit, es.map .ok) := by
  obtain ⟨short, rfl⟩ := mapM_encodeFrame_eq_ok.1 encoded
  have lines := splitLines_frames (integral_of_forall₂_writtenAs valid written)
  -- each line of the stream is the text of one envelope, which fits its frame
  have within : Within limit ((Feed.start limit).pending ++ chunks.flatten) := by
    show Within limit chunks.flatten
    rw [cut, Within, lines]
    refine ⟨fun line hl => ?_, Nat.zero_le limit⟩
    obtain ⟨v, hv, rfl⟩ := List.mem_map.1 hl
    exact short v hv
  rw [pushAll_of_within List.not_mem_nil within]
  show (Feed.mk limit (splitLines chunks.flatten).2,
    (splitLines chunks.flatten).1.flatMap (lineYield Envelope.read limit)) = _
  rw [cut, lines, flatMap_lineYield_write valid written deep short]
  rfl

/-- Other parameters, in an order that is not ascending. -/
def looseExtra : List (String × Value) :=
  [("proxies", .array [.object [("port", .int (-1))]]), ("dry", .bool true)]

/-- Results, in an order that is not ascending. The text of one has a line break, quotes and a
letter beyond ASCII. -/
def looseResults : List (String × TaskReport) :=
  [("b", ⟨none, false, "Running...", none⟩), ("a", ⟨some true, true, "line\n\"ü\"", some "t"⟩)]

/-- Parameters with others of their own. -/
def looseParams : Params :=
  { Params.empty with concurrency := some 4, extra := Table.ofList looseExtra }

/-- The order to start with these parameters. -/
def looseOrder : Command := ⟨.start, some looseParams⟩

/-- A status with these results. -/
def looseReport : StatusReport := ⟨some 1, true, Table.ofList looseResults⟩

/-- The order and the status on their way. -/
def looseEnvelopes : List Envelope :=
  [⟨1, "console", "now", some "r-1", .command looseOrder⟩,
    ⟨1, "engine", "now", none, .status looseReport⟩]

/-- The same as they are written with both maps in the order in which they are listed. -/
def looseValues : List Value :=
  (looseEnvelopes.zip [looseOrder.toValueIn (some (looseParams.toValueIn looseExtra)),
    looseReport.toValueIn looseResults]).map fun x => x.1.toValueIn x.2

/-- They arrive byte by byte, though no map is written in ascending order. -/
theorem Feed.pushAll_frames_of_bytes :
    looseParams.extra.keys ≠ looseExtra.map (·.1) ∧
      looseReport.results.keys ≠ looseResults.map (·.1) ∧
      (Feed.start 256).pushAll Envelope.read
          ((looseValues.flatMap fun v => v.write ++ [lineFeed]).map fun b => [b]) =
        (Feed.start 256, looseEnvelopes.map .ok) := by
  have extra : looseExtra.Perm looseParams.extra.entries := .swap _ _ _
  have results : looseResults.Perm looseReport.results.entries := .swap _ _ _
  have valid : ∀ e ∈ looseEnvelopes, e.Valid := by
    refine List.forall_mem_cons.2 ⟨⟨by decide, ?_⟩, List.forall_mem_cons.2 ⟨⟨by decide, ?_⟩, ?_⟩⟩
    · rintro p ⟨⟩
      refine ⟨?_, nofun, nofun, nofun, by decide +kernel, by decide +kernel⟩
      rintro n ⟨⟩
      decide
    · rintro n ⟨⟩
      decide
    · intro e he
      exact absurd he List.not_mem_nil
  have written : List.Forall₂ Envelope.WrittenAs looseEnvelopes looseValues :=
    .cons ⟨_, ⟨_, .some ⟨_, extra, rfl⟩, rfl⟩, rfl⟩ (.cons ⟨_, ⟨_, results, rfl⟩, rfl⟩ .nil)
  have deep : ∀ v ∈ looseValues, v.depth < 128 := by decide +kernel
  have short : ∀ v ∈ looseValues, v.write.length ≤ 256 := by decide +kernel
  refine ⟨by decide +kernel, by decide +kernel, ?_⟩
  refine Feed.pushAll_frames valid written deep (mapM_encodeFrame_eq_ok.2 ⟨short, rfl⟩) ?_
  rw [← List.flatMap_def, ← List.flatMap_def]
  exact List.flatMap_singleton' _

end Overseer.Wire
