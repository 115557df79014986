import Overseer.Json.Printer

/-!
# Texts read back

A written text holds its characters as UTF-8, apart from quotes, backslashes and control characters,
which are escaped.  The reader takes it byte by byte, wherever the bytes come from, and keeps what
it has read as pieces.  This file proves:

* `Reader.feed_writeChar` : the bytes of a written character leave its pieces, whatever was read of
  the text before.
* `textOf_pieces` : the pieces of all characters of a text are that text.
* `Reader.feed_writeText` : **a written text reads back**, as a value and as a key.
* `printable_writeText` : no byte of a written text is a control character, so no line ends in it.
-/

namespace Overseer.Json

open Overseer.Text

/-- No byte is a control character. -/
def Printable (bs : List UInt8) : Prop := ∀ b ∈ bs, 0x20 ≤ b.toNat

instance (bs : List UInt8) : Decidable (Printable bs) :=
  List.decidableBAll (fun b : UInt8 => 0x20 ≤ b.toNat) bs

theorem Printable.append {a b : List UInt8} (ha : Printable a) (hb : Printable b) :
    Printable (a ++ b) := by
  intro x hx
  rcases List.mem_append.1 hx with hx | hx
  · exact ha x hx
  · exact hb x hx

theorem Printable.cons {x : UInt8} {bs : List UInt8} (hx : 0x20 ≤ x.toNat) (h : Printable bs) :
    Printable (x :: bs) := by
  intro y hy
  rcases List.mem_cons.1 hy with rfl | hy
  · exact hx
  · exact h y hy

/-! ### Characters as bytes -/

theorem encodeChar_of_lt {c : Char} (h : c.toNat < 0x80) :
    Utf8.encodeChar c = [UInt8.ofNat c.toNat] := by
  have : c.val.toNat ≤ 0x7f := Nat.le_of_lt_succ h
  simp only [Utf8.encodeChar, String.utf8EncodeChar, if_pos this]
  rfl

theorem le_of_mem_encodeChar {c : Char} (h : 0x80 ≤ c.toNat) {b : UInt8}
    (hb : b ∈ Utf8.encodeChar c) : 0x80 ≤ b.toNat := by
  have hc : ¬c.val.toNat ≤ 0x7f := Nat.not_le.2 h
  have key : ∀ n : Nat, 0x80 ≤ n → n < 0x100 → 0x80 ≤ (UInt8.ofNat n).toNat := by
    intro n hn hn'
    rw [UInt8.toNat_ofNat', Nat.mod_eq_of_lt hn']
    exact hn
  simp only [Utf8.encodeChar, String.utf8EncodeChar, if_neg hc] at hb
  split at hb
  · simp only [List.mem_cons, List.not_mem_nil, or_false] at hb
    rcases hb with rfl | rfl <;> exact key _ (by omega) (by omega)
  · split at hb
    · simp only [List.mem_cons, List.not_mem_nil, or_false] at hb
      rcases hb with rfl | rfl | rfl <;> exact key _ (by omega) (by omega)
    · simp only [List.mem_cons, List.not_mem_nil, or_false] at hb
      rcases hb with rfl | rfl | rfl | rfl <;> exact key _ (by omega) (by omega)

theorem flatMap_encodeChar (s : String) : s.toList.flatMap Utf8.encodeChar = Utf8.encode s := by
  show s.toList.flatMap String.utf8EncodeChar = s.toByteArray.data.toList
  rw [← String.utf8Encode_toList, List.utf8Encode, List.data_toByteArray]

theorem decode_flatMap (s : String) :
    Utf8.decode (s.toList.flatMap Utf8.encodeChar) = some s := by
  rw [flatMap_encodeChar, Utf8.decode_encode]

/-- A byte that stands for itself between quotes. -/
def Plain (b : UInt8) : Prop := b ≠ ascii '"' ∧ b ≠ ascii '\\' ∧ 0x20 ≤ b.toNat

/-- A character that is written as it is. -/
def Bare (c : Char) : Prop := c ≠ '"' ∧ c ≠ '\\' ∧ 0x20 ≤ c.toNat

theorem plain_of_bare {c : Char} (h : Bare c) : ∀ b ∈ Utf8.encodeChar c, Plain b := by
  intro b hb
  obtain ⟨hq, hs, hc⟩ := h
  by_cases hlt : c.toNat < 0x80
  · rw [encodeChar_of_lt hlt, List.mem_singleton] at hb
    subst hb
    have ne : ∀ d : Char, d.toNat < 0x80 → c ≠ d → UInt8.ofNat c.toNat ≠ ascii d := by
      intro d hd hne heq
      have := congrArg UInt8.toNat heq
      simp only [ascii, UInt8.toNat_ofNat'] at this
      exact hne (Char.toNat_inj.1 (by omega))
    refine ⟨ne _ (by decide) hq, ne _ (by decide) hs, ?_⟩
    rw [UInt8.toNat_ofNat', Nat.mod_eq_of_lt (by omega)]
    exact hc
  · have hb := le_of_mem_encodeChar (Nat.not_lt.1 hlt) hb
    have ne : ∀ d : UInt8, d.toNat < 0x80 → b ≠ d := by
      rintro d hd rfl
      omega
    exact ⟨ne _ (by decide), ne _ (by decide), by omega⟩

/-! ### Characters as pieces -/

/-- Whether a character is written by its number. -/
def numbered (c : Char) : Bool := c.toNat < 0x20 && !([8, 9, 10, 12, 13].contains c.toNat)

/-- The pieces that a written character is read as. -/
def pieces (c : Char) : List Piece :=
  if numbered c then [.unit c.toNat] else (Utf8.encodeChar c).map .byte

theorem joinPieces_bytes (bs : List UInt8) (rest : List Piece) (done : List UInt8) :
    joinPieces (bs.map .byte ++ rest) done = joinPieces rest (bs.reverse ++ done) := by
  induction bs generalizing done with
  | nil => rfl
  | cons b bs ih => simp [joinPieces, ih]

theorem joinPieces_pieces (c : Char) (rest : List Piece) (done : List UInt8) :
    joinPieces (pieces c ++ rest) done = joinPieces rest ((Utf8.encodeChar c).reverse ++ done) := by
  rw [pieces]
  split
  · next h =>
    have hlt : c.toNat < 0x20 := by
      simp only [numbered, Bool.and_eq_true, decide_eq_true_eq] at h
      exact h.1
    have high : ¬(0xD800 ≤ c.toNat ∧ c.toNat < 0xDC00) := by omega
    have low : ¬(0xDC00 ≤ c.toNat ∧ c.toNat < 0xE000) := by omega
    rw [List.singleton_append, joinPieces.eq_def]
    simp only [if_neg high, if_neg low, Char.ofNat_toNat]
  · exact joinPieces_bytes _ _ _

theorem joinPieces_flatMap (cs : List Char) (done : List UInt8) :
    joinPieces (cs.flatMap pieces) done = some (done.reverse ++ cs.flatMap Utf8.encodeChar) := by
  induction cs generalizing done with
  | nil => simp [joinPieces]
  | cons c cs ih => rw [List.flatMap_cons, joinPieces_pieces, ih]; simp

theorem textOf_pieces (s : String) : textOf (s.toList.flatMap pieces) = some s := by
  rw [textOf, joinPieces_flatMap]
  exact decode_flatMap s

namespace Reader

theorem step_plain {b : UInt8} (h : Plain b) (stack : List Frame) (root : Option Node)
    (asKey : Bool) (ps : List Piece) :
    step ⟨stack, .text asKey ps, root⟩ b = ⟨stack, .text asKey (.byte b :: ps), root⟩ := by
  obtain ⟨hq, hs, hc⟩ := h
  have hc : ¬b < 0x20 := by
    rw [UInt8.lt_iff_toNat_lt]
    exact Nat.not_lt.2 hc
  simp only [step, if_neg hq, if_neg hs, if_neg hc]

theorem feed_plain {bs : List UInt8} (h : ∀ b ∈ bs, Plain b) (stack : List Frame)
    (root : Option Node) (asKey : Bool) (ps : List Piece) :
    feed ⟨stack, .text asKey ps, root⟩ bs =
      ⟨stack, .text asKey ((bs.map .byte).reverse ++ ps), root⟩ := by
  induction bs generalizing ps with
  | nil => rfl
  | cons b bs ih =>
    obtain ⟨hb, hbs⟩ := List.forall_mem_cons.1 h
    show feed (step _ b) bs = _
    rw [step_plain hb, ih hbs]
    simp

theorem step_hex {b : UInt8} {d : Nat} (h : hexDigit? b = some d) (stack : List Frame)
    (root : Option Node) (asKey : Bool) (ps : List Piece) (left n : Nat) :
    step ⟨stack, .hex asKey ps left n, root⟩ b =
      if left ≤ 1 then ⟨stack, .text asKey (.unit (n * 16 + d) :: ps), root⟩
      else ⟨stack, .hex asKey ps (left - 1) (n * 16 + d), root⟩ := by
  simp only [step, h]

theorem feed_numbered {n : Nat} (hn : n < 0x20) (stack : List Frame) (root : Option Node)
    (asKey : Bool) (ps : List Piece) :
    feed ⟨stack, .text asKey ps, root⟩ (asciiBytes (['\\', 'u', '0', '0'] ++ hexPair n)) =
      ⟨stack, .text asKey (.unit n :: ps), root⟩ := by
  -- two zeros, then the number in two hexadecimal digits
  have digit : ∀ d < 0x10, hexDigit? (ascii (Nat.digitChar d)) = some d := by decide
  have zeros : feed ⟨stack, .text asKey ps, root⟩ (asciiBytes ['\\', 'u', '0', '0']) =
      ⟨stack, .hex asKey ps 2 0, root⟩ := rfl
  have value : (0 * 16 + n / 16 % 16) * 16 + n % 16 = n := by omega
  rw [asciiBytes, List.map_append, feed_append, ← asciiBytes, zeros]
  show step (step _ _) _ = _
  rw [step_hex (digit _ (by omega)), if_neg (by decide), step_hex (digit _ (by omega)),
    if_pos (by decide), value]

theorem feed_writeChar (c : Char) (stack : List Frame) (root : Option Node) (asKey : Bool)
    (ps : List Piece) :
    feed ⟨stack, .text asKey ps, root⟩ (writeChar c) =
      ⟨stack, .text asKey ((pieces c).reverse ++ ps), root⟩ := by
  by_cases hq : c = '"'
  · subst hq
    rfl
  by_cases hs : c = '\\'
  · subst hs
    rfl
  by_cases hc : c.toNat < 0x20
  -- a control character is written by a letter or by its number
  · have short : ∀ n < 0x20, c.toNat = n → c = Char.ofNat n := by
      rintro _ - rfl
      rw [Char.ofNat_toNat]
    by_cases hn : numbered c
    · obtain ⟨-, h8, h9, h10, h12, h13⟩ := by simpa [numbered] using hn
      rw [writeChar, if_neg hq, if_neg hs, if_pos hc, if_neg h8, if_neg h12, if_neg h10,
        if_neg h13, if_neg h9, feed_numbered hc, pieces, if_pos hn]
      rfl
    · have letter : c.toNat = 8 ∨ c.toNat = 9 ∨ c.toNat = 10 ∨ c.toNat = 12 ∨ c.toNat = 13 := by
        simp only [numbered, hc] at hn
        simp at hn
        omega
      rcases letter with h | h | h | h | h <;> rw [short _ (by decide) h] <;> rfl
  · have bare : Bare c := ⟨hq, hs, Nat.not_lt.1 hc⟩
    have hn : ¬numbered c := by simp [numbered, hc]
    rw [writeChar, if_neg hq, if_neg hs, if_neg hc, feed_plain (plain_of_bare bare),
      pieces, if_neg hn]

theorem feed_flatMap_writeChar (cs : List Char) (stack : List Frame) (root : Option Node)
    (asKey : Bool) (ps : List Piece) :
    feed ⟨stack, .text asKey ps, root⟩ (cs.flatMap writeChar) =
      ⟨stack, .text asKey ((cs.flatMap pieces).reverse ++ ps), root⟩ := by
  induction cs generalizing ps with
  | nil => rfl
  | cons c cs ih =>
    rw [List.flatMap_cons, feed_append, feed_writeChar, ih, List.flatMap_cons, List.reverse_append,
      List.append_assoc]

/-- A complete value is taken the same, whatever the reader was in the middle of. -/
theorem put_phase (r : Reader) (p : Phase) (n : Node) : put { r with phase := p } n = r.put n := by
  obtain ⟨stack, phase, root⟩ := r
  cases stack with
  | nil => rfl
  | cons f rest => cases f <;> cases root <;> rfl

/-- A reader that waits for a value. -/
def AtValue (r : Reader) : Prop := r.phase = .value ∨ r.phase = .firstItem

/-- A reader that waits for a key. -/
def AtKey (r : Reader) : Prop := r.phase = .key ∨ r.phase = .firstKey

theorem feed_between (s : String) (stack : List Frame) (root : Option Node) (asKey : Bool) :
    feed ⟨stack, .text asKey [], root⟩ (s.toList.flatMap writeChar ++ [ascii '"']) =
      if asKey then ⟨stack, .colon (some s), root⟩
      else put ⟨stack, .text asKey [], root⟩ (.text (some s)) := by
  rw [feed_append, feed_flatMap_writeChar]
  show putText _ asKey _ = _
  rw [putText, List.append_nil, List.reverse_reverse, textOf_pieces]
  cases asKey
  · exact put_phase ⟨stack, .text false [], root⟩ _ _
  · rfl

/-- **A written text reads back** where a value is wanted. -/
theorem feed_writeText (s : String) {r : Reader} (h : r.AtValue) :
    r.feed (writeText s) = r.put (.text (some s)) := by
  obtain ⟨stack, phase, root⟩ := r
  have first : step ⟨stack, phase, root⟩ (ascii '"') = ⟨stack, .text false [], root⟩ := by
    rcases h with h | h <;> cases h <;> rfl
  show feed (step _ _) _ = _
  rw [first, feed_between]
  exact put_phase ⟨stack, phase, root⟩ _ _

theorem feed_writeText_key (s : String) {r : Reader} (h : r.AtKey) :
    r.feed (writeText s) = { r with phase := .colon (some s) } := by
  obtain ⟨stack, phase, root⟩ := r
  have first : step ⟨stack, phase, root⟩ (ascii '"') = ⟨stack, .text true [], root⟩ := by
    rcases h with h | h <;> cases h <;> rfl
  show feed (step _ _) _ = _
  rw [first, feed_between]
  rfl

end Reader

/-! ### No control characters -/

theorem printable_writeChar (c : Char) : Printable (writeChar c) := by
  by_cases hq : c = '"'
  · subst hq
    decide
  by_cases hs : c = '\\'
  · subst hs
    decide
  by_cases hc : c.toNat < 0x20
  · -- there are few control characters, and each is written by printable ones
    have all : ∀ n < 0x20, Printable (writeChar (Char.ofNat n)) := by decide
    have := all c.toNat hc
    rwa [Char.ofNat_toNat] at this
  · intro b hb
    rw [writeChar, if_neg hq, if_neg hs, if_neg hc] at hb
    exact (plain_of_bare ⟨hq, hs, Nat.not_lt.1 hc⟩ b hb).2.2

theorem printable_writeText (s : String) : Printable (writeText s) := by
  refine Printable.cons (by decide) (Printable.append ?_ ?_)
  · intro b hb
    obtain ⟨c, -, hc⟩ := List.mem_flatMap.1 hb
    exact printable_writeChar c b hc
  · exact Printable.cons (by decide) fun _ h => absurd h List.not_mem_nil

end Overseer.Json
