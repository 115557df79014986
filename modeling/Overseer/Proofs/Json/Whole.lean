import Overseer.Proofs.Json.Texts
import Overseer.Text.Blank

/-!
# Whole documents

A text that the reader takes to its end holds no broken place, for the reader never goes on behind
one.  Nor does a text of blanks hold any document.

* `Reader.whole_step` : until it fails, the reader holds only nodes without a broken place.
* `sound_of_closed` : **a closed document holds no broken place**.
* `closed_of_blank` : a text of blanks is no document.
-/

namespace Overseer.Json

open Overseer.Text

theorem soundItems_iff {items : List Node} :
    soundItems items = true ↔ ∀ n ∈ items, n.sound = true := by
  induction items with
  | nil => simp [soundItems]
  | cons n rest ih => rw [soundItems, Bool.and_eq_true, ih, List.forall_mem_cons]

theorem soundMembers_iff {members : List (Option String × Node)} :
    soundMembers members = true ↔ ∀ m ∈ members, m.2.sound = true := by
  induction members with
  | nil => simp [soundMembers]
  | cons m rest ih => rw [soundMembers, Bool.and_eq_true, ih, List.forall_mem_cons]

theorem soundItems_reverse (items : List Node) : soundItems items.reverse = soundItems items := by
  rw [Bool.eq_iff_iff, soundItems_iff, soundItems_iff]
  simp only [List.mem_reverse]

theorem soundMembers_reverse (members : List (Option String × Node)) :
    soundMembers members.reverse = soundMembers members := by
  rw [Bool.eq_iff_iff, soundMembers_iff, soundMembers_iff]
  simp only [List.mem_reverse]

/-- What is open holds no broken place so far. -/
def Frame.sound : Frame → Bool
  | .array items => soundItems items
  | .object members | .member members _ => soundMembers members

namespace Reader

/-- The value of the text is still to come, and what is open holds no broken place. -/
structure Unbroken (r : Reader) : Prop where
  root : r.root = none
  stack : ∀ f ∈ r.stack, f.sound = true

/-- A word that is being read stands for a node without a broken place. -/
def Spells : Phase → Prop
  | .word _ n => n.sound = true
  | _ => True

/-- The reader holds no broken place unless it has failed. -/
inductive Whole (r : Reader) : Prop where
  | failed (hp : r.phase = .failed) (hs : r.stack = [])
  /-- It has the value of the text. -/
  | done {n : Node} (hr : r.root = some n) (hn : n.sound = true) (hp : r.phase = .after)
      (hs : r.stack = [])
  | going (h : r.Unbroken) (hp : Spells r.phase)

variable {r : Reader}

theorem whole_fail (h : r.root = none ∨ r.stack = []) : r.fail.Whole := by
  rw [fail]
  split
  · next n hn => exact .failed rfl (h.resolve_left (hn ▸ nofun))
  · exact .failed rfl rfl

theorem Unbroken.fail (h : r.Unbroken) : r.fail.Whole := whole_fail (.inl h.root)

theorem Unbroken.wait (h : r.Unbroken) {p : Phase} (hp : Spells p) :
    Whole { r with phase := p } := .going ⟨h.root, h.stack⟩ hp

theorem Unbroken.enter (h : r.Unbroken) {f : Frame} {p : Phase} (hf : f.sound = true)
    (hp : Spells p) : Whole { r with stack := f :: r.stack, phase := p } :=
  .going ⟨h.root, List.forall_mem_cons.2 ⟨hf, h.stack⟩⟩ hp

/-- **A node without a broken place** is put into what holds none. -/
theorem Unbroken.put (h : r.Unbroken) {n : Node} (hn : n.sound = true) : (r.put n).Whole := by
  obtain ⟨stack, phase, root⟩ := r
  cases stack with
  | nil => exact .done rfl hn rfl rfl
  | cons f rest =>
    obtain ⟨hf, hrest⟩ := List.forall_mem_cons.1 h.stack
    cases f with
    | array items =>
      have hitems : Frame.sound (.array (n :: items)) = true := by
        rw [Frame.sound, soundItems, hn]
        exact hf
      exact .going ⟨h.root, List.forall_mem_cons.2 ⟨hitems, hrest⟩⟩ trivial
    | member members key =>
      have hmembers : Frame.sound (.object ((key, n) :: members)) = true := by
        rw [Frame.sound, soundMembers, hn]
        exact hf
      exact .going ⟨h.root, List.forall_mem_cons.2 ⟨hmembers, hrest⟩⟩ trivial
    | object members => exact whole_fail (.inl h.root)

theorem Unbroken.closeArray (h : r.Unbroken) : r.closeArray.Whole := by
  rw [Reader.closeArray]
  split
  · next items rest hs =>
    obtain ⟨hitems, hrest⟩ := List.forall_mem_cons.1 (hs ▸ h.stack)
    refine Unbroken.put (r := { r with stack := rest }) ⟨h.root, hrest⟩ ?_
    rw [Node.sound, soundItems_reverse]
    exact hitems
  · exact h.fail

theorem Unbroken.closeObject (h : r.Unbroken) : r.closeObject.Whole := by
  rw [Reader.closeObject]
  split
  · next members rest hs =>
    obtain ⟨hmembers, hrest⟩ := List.forall_mem_cons.1 (hs ▸ h.stack)
    refine Unbroken.put (r := { r with stack := rest }) ⟨h.root, hrest⟩ ?_
    rw [Node.sound, soundMembers_reverse]
    exact hmembers
  · exact h.fail

theorem Unbroken.open_ (h : r.Unbroken) (b : UInt8) : (r.open_ b).Whole := by
  rw [Reader.open_]
  split
  · exact h.enter rfl trivial
  split
  · exact h.enter rfl trivial
  split
  · exact h.wait trivial
  split
  · exact h.wait rfl
  split
  · exact h.wait rfl
  split
  · exact h.wait rfl
  split
  · exact h.wait trivial
  · exact h.fail

theorem whole_behind (h : r.Whole) (b : UInt8) : (r.behind b).Whole := by
  have none_open : r.stack = [] → (r.behind b).Whole := by
    intro hs
    rw [Reader.behind, Reader.closeArray, Reader.closeObject, hs]
    split
    · exact h
    · simp only [ite_self]
      exact whole_fail (.inr hs)
  cases h with
  | failed _ hs | done _ _ _ hs => exact none_open hs
  | going h hp =>
    rw [Reader.behind]
    split
    · exact .going h hp
    split
    · split
      · exact h.wait trivial
      · exact h.wait trivial
      · exact h.fail
    split
    · exact h.closeArray
    split
    · exact h.closeObject
    · exact h.fail

theorem Unbroken.putText (h : r.Unbroken) (asKey : Bool) (pieces : List Piece) :
    (r.putText asKey pieces).Whole := by
  rw [Reader.putText]
  split
  · exact h.wait trivial
  · exact h.put rfl

/-! ### One byte more, by what the reader waits for -/

theorem Unbroken.stay (h : r.Unbroken) {p : Phase} (hp : r.phase = p) (hs : Spells p) : r.Whole :=
  .going h (hp ▸ hs)

theorem Unbroken.step_value (h : r.Unbroken) (hp : r.phase = .value) (b : UInt8) :
    (r.step b).Whole := by
  simp only [Reader.step, hp]
  split
  · exact h.stay hp trivial
  · exact h.open_ b

theorem Unbroken.step_firstItem (h : r.Unbroken) (hp : r.phase = .firstItem) (b : UInt8) :
    (r.step b).Whole := by
  simp only [Reader.step, hp]
  split
  · exact h.stay hp trivial
  split
  · exact h.closeArray
  · exact h.open_ b

theorem Unbroken.step_firstKey (h : r.Unbroken) (hp : r.phase = .firstKey) (b : UInt8) :
    (r.step b).Whole := by
  simp only [Reader.step, hp]
  split
  · exact h.stay hp trivial
  split
  · exact h.closeObject
  split
  · exact h.wait trivial
  · exact h.fail

theorem Unbroken.step_key (h : r.Unbroken) (hp : r.phase = .key) (b : UInt8) :
    (r.step b).Whole := by
  simp only [Reader.step, hp]
  split
  · exact h.stay hp trivial
  split
  · exact h.wait trivial
  · exact h.fail

theorem Unbroken.step_colon (h : r.Unbroken) {key : Option String} (hp : r.phase = .colon key)
    (b : UInt8) : (r.step b).Whole := by
  simp only [Reader.step, hp]
  split
  · exact h.stay hp trivial
  split
  · split
    · next members rest hs =>
      obtain ⟨hmembers, hrest⟩ := List.forall_mem_cons.1 (hs ▸ h.stack)
      exact .going ⟨h.root, List.forall_mem_cons.2 ⟨hmembers, hrest⟩⟩ trivial
    · exact h.fail
  · exact h.fail

theorem Unbroken.step_word (h : r.Unbroken) {letters : List UInt8} {n : Node}
    (hp : r.phase = .word letters n) (hn : n.sound = true) (b : UInt8) : (r.step b).Whole := by
  cases letters with
  | nil =>
    simp only [Reader.step, hp]
    exact h.fail
  | cons c rest =>
    simp only [Reader.step, hp]
    split
    · split
      · exact h.put hn
      · exact h.wait hn
    · exact h.fail

theorem Unbroken.step_number (h : r.Unbroken) {draft : NumberDraft} (hp : r.phase = .number draft)
    (b : UInt8) : (r.step b).Whole := by
  simp only [Reader.step, hp]
  split
  · exact h.wait trivial
  split
  -- the number ended before the byte
  · exact whole_behind (h.put rfl) b
  · exact h.fail

theorem Unbroken.step_text (h : r.Unbroken) {asKey : Bool} {pieces : List Piece}
    (hp : r.phase = .text asKey pieces) (b : UInt8) : (r.step b).Whole := by
  simp only [Reader.step, hp]
  split
  · exact h.putText _ _
  split
  · exact h.wait trivial
  split
  · exact h.fail
  · exact h.wait trivial

theorem Unbroken.step_escape (h : r.Unbroken) {asKey : Bool} {pieces : List Piece}
    (hp : r.phase = .escape asKey pieces) (b : UInt8) : (r.step b).Whole := by
  simp only [Reader.step, hp]
  split
  · exact h.wait trivial
  split
  · exact h.wait trivial
  · exact h.fail

theorem Unbroken.step_hex (h : r.Unbroken) {asKey : Bool} {pieces : List Piece} {left n : Nat}
    (hp : r.phase = .hex asKey pieces left n) (b : UInt8) : (r.step b).Whole := by
  simp only [Reader.step, hp]
  split
  · split <;> exact h.wait trivial
  · exact h.fail

theorem Unbroken.step (h : r.Unbroken) (hp : Spells r.phase) (b : UInt8) : (r.step b).Whole := by
  cases hphase : r.phase with
  | value => exact h.step_value hphase b
  | firstItem => exact h.step_firstItem hphase b
  | firstKey => exact h.step_firstKey hphase b
  | key => exact h.step_key hphase b
  | colon => exact h.step_colon hphase b
  | word => exact h.step_word hphase (by simpa [Spells, hphase] using hp) b
  | number => exact h.step_number hphase b
  | text => exact h.step_text hphase b
  | escape => exact h.step_escape hphase b
  | hex => exact h.step_hex hphase b
  | after =>
    rw [Reader.step, hphase]
    exact whole_behind (h.stay hphase trivial) b
  | failed =>
    rw [Reader.step, hphase]
    exact h.stay hphase trivial

/-- **One byte more**: the reader holds no broken place unless it fails. -/
theorem whole_step (h : r.Whole) (b : UInt8) : (r.step b).Whole := by
  cases h with
  | failed hf hs =>
    rw [step, hf]
    exact .failed hf hs
  | done hr hn ha hs =>
    rw [step, ha]
    exact whole_behind (.done hr hn ha hs) b
  | going h hp => exact h.step hp b

theorem whole_feed (h : r.Whole) (bs : List UInt8) : (r.feed bs).Whole := by
  induction bs generalizing r with
  | nil => exact h
  | cons b rest ih => exact ih (whole_step h b)

/-- The reader at the end of a text, where a number ends if it is still being read. -/
def ended (r : Reader) : Reader :=
  match r.phase with
  | .number draft =>
    match draft.literal? with
    | some l => r.put (.number l)
    | none => r
  | _ => r

/-- What a reader has read. -/
def document (r : Reader) : Document :=
  match r.root, r.phase with
  | some n, .after => ⟨n, true⟩
  | some n, _ => ⟨n, false⟩
  | none, _ => ⟨r.fail.root.getD .broken, false⟩

theorem finish_eq (r : Reader) : r.finish = r.ended.document := rfl

theorem whole_ended (h : r.Whole) : r.ended.Whole := by
  rw [ended]
  split
  · next draft hn =>
    split
    · cases h with
      | failed hf | done _ _ hf => cases hn.symm.trans hf
      | going h => exact h.put rfl
    · exact h
  · exact h

/-- **A document is closed** only if the reader has the value of the text. -/
theorem Whole.sound_document (h : r.Whole) (hc : r.document.closed = true) :
    r.document.root.sound = true := by
  cases h with
  | failed hf => cases hr : r.root <;> simp [document, hr, hf] at hc
  | done hr hn ha => simpa [document, hr, ha] using hn
  | going hg => simp [document, hg.root] at hc

end Reader

/-- **A closed document holds no broken place.** -/
theorem sound_of_closed {bs : List UInt8} (h : (Json.read bs).closed = true) :
    (Json.read bs).root.sound = true := by
  have start : Reader.start.Whole := .going ⟨rfl, List.forall_mem_nil _⟩ trivial
  have whole := Reader.whole_ended (Reader.whole_feed start bs)
  rw [Json.read, Reader.finish_eq] at h ⊢
  exact whole.sound_document h

/-! ### Texts of blanks -/

/-- A byte that may belong to a blank character: none of those that are written in JSON. -/
def BlankByte (b : UInt8) : Prop := b.toNat ≤ 0x20 ∨ 0x80 ≤ b.toNat

instance (b : UInt8) : Decidable (BlankByte b) := inferInstanceAs (Decidable (_ ∨ _))

theorem blankByte_of_isBlank {c : Char} (h : isBlank c = true) :
    ∀ b ∈ Utf8.encodeChar c, BlankByte b := by
  intro b hb
  by_cases hc : c.toNat < 0x80
  · have hle : c.toNat ≤ 0x20 := by
      simp only [isBlank, Bool.or_eq_true, Bool.and_eq_true, decide_eq_true_eq,
        beq_iff_eq] at h
      omega
    rw [encodeChar_of_lt hc, List.mem_singleton] at hb
    subst hb
    refine .inl ?_
    rw [UInt8.toNat_ofNat', Nat.mod_eq_of_lt (by omega)]
    exact hle
  · exact .inr (le_of_mem_encodeChar (Nat.not_lt.1 hc) hb)

namespace Reader

theorem step_blankByte {b : UInt8} (h : BlankByte b) :
    start.step b = start ∨ start.step b = start.fail := by
  have ne : ∀ c : Char, ¬BlankByte (ascii c) → b ≠ ascii c := by
    rintro c hc rfl
    exact hc h
  have no_digit : NumberDraft.digit? b = none := by
    have hzero : (ascii '0').toNat = 48 := rfl
    have hnine : (ascii '9').toNat = 57 := rfl
    refine if_neg ?_
    rw [UInt8.le_iff_toNat_le, UInt8.le_iff_toNat_le]
    simp only [BlankByte] at h
    omega
  have refused : start.open_ b = start.fail := by
    simp only [open_, NumberDraft.start?, no_digit, if_neg (ne '[' (by decide)),
      if_neg (ne '\x7b' (by decide)), if_neg (ne '"' (by decide)), if_neg (ne 'n' (by decide)),
      if_neg (ne 't' (by decide)), if_neg (ne 'f' (by decide)), if_neg (ne '-' (by decide)),
      Option.map_none]
  show (if Reader.blank b then start else start.open_ b) = _ ∨
    (if Reader.blank b then start else start.open_ b) = _
  split
  · exact .inl rfl
  · exact .inr refused

theorem feed_fail (bs : List UInt8) : start.fail.feed bs = start.fail := by
  induction bs with
  | nil => rfl
  | cons b rest ih => exact ih

theorem feed_blankBytes {bs : List UInt8} (h : ∀ b ∈ bs, BlankByte b) :
    start.feed bs = start ∨ start.feed bs = start.fail := by
  induction bs with
  | nil => exact .inl rfl
  | cons b rest ih =>
    obtain ⟨hb, hrest⟩ := List.forall_mem_cons.1 h
    show (start.step b).feed rest = _ ∨ (start.step b).feed rest = _
    rcases step_blankByte hb with hs | hs
    · rw [hs]
      exact ih hrest
    · rw [hs]
      exact .inr (feed_fail rest)

end Reader

/-- **A text of blanks is no document.** -/
theorem closed_of_blank {s : String} (h : blank s = true) :
    (Json.read (Utf8.encode s)).closed = false := by
  have hbytes : ∀ b ∈ Utf8.encode s, BlankByte b := by
    rw [← flatMap_encodeChar]
    intro b hb
    obtain ⟨c, hc, hb⟩ := List.mem_flatMap.1 hb
    exact blankByte_of_isBlank (List.all_eq_true.1 h c hc) b hb
  rw [Json.read]
  rcases Reader.feed_blankBytes hbytes with hs | hs <;> rw [hs] <;> rfl

end Overseer.Json
