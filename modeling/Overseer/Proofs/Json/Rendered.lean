import Overseer.Proofs.Decimal.Notation
import Overseer.Proofs.Json.Texts

/-!
# Written values are texts

Whatever a value holds, its bytes are those of a text: the characters of its own texts, escaped or
as they are, between characters of ASCII.

* `isText_write` : **a written value is a text**.
* `encode_render` : so nothing is lost between the value's text and its bytes.
-/

namespace Overseer.Json

open Overseer.Text Overseer.Decimal

/-- The bytes of a sequence of characters. -/
def IsText (bs : List UInt8) : Prop := ∃ cs : List Char, bs = cs.flatMap Utf8.encodeChar

theorem IsText.append {a b : List UInt8} (ha : IsText a) (hb : IsText b) : IsText (a ++ b) := by
  obtain ⟨cs, rfl⟩ := ha
  obtain ⟨ds, rfl⟩ := hb
  exact ⟨cs ++ ds, List.flatMap_append.symm⟩

theorem isText_encodeChar (c : Char) : IsText (Utf8.encodeChar c) := ⟨[c], by simp⟩

theorem isText_flatMap {cs : List Char} {f : Char → List UInt8} (h : ∀ c, IsText (f c)) :
    IsText (cs.flatMap f) := by
  induction cs with
  | nil => exact ⟨[], rfl⟩
  | cons c rest ih =>
    rw [List.flatMap_cons]
    exact (h c).append ih

theorem IsText.cons {c : Char} (hc : c.toNat < 0x80) {bs : List UInt8} (h : IsText bs) :
    IsText (ascii c :: bs) := by
  have hbyte : Utf8.encodeChar c = [ascii c] := encodeChar_of_lt hc
  rw [← List.singleton_append, ← hbyte]
  exact (isText_encodeChar c).append h

theorem isText_asciiBytes {cs : List Char} (h : ∀ c ∈ cs, c.toNat < 0x80) :
    IsText (asciiBytes cs) := by
  induction cs with
  | nil => exact ⟨[], rfl⟩
  | cons c rest ih =>
    obtain ⟨hc, hrest⟩ := List.forall_mem_cons.1 h
    exact (ih hrest).cons hc

theorem isText_ascii (cs : List Char) (h : cs.all (fun c => c.toNat < 0x80) = true) :
    IsText (asciiBytes cs) :=
  isText_asciiBytes fun c hc => of_decide_eq_true (List.all_eq_true.1 h c hc)

/-! ### Values -/

theorem isText_hexPair (n : Nat) : IsText (asciiBytes (hexPair n)) := by
  have digit : ∀ d < 16, (Nat.digitChar d).toNat < 0x80 := by decide
  refine isText_asciiBytes fun c hc => ?_
  simp only [hexPair, List.mem_cons, List.not_mem_nil, or_false] at hc
  rcases hc with rfl | rfl <;> exact digit _ (Nat.mod_lt _ (by decide))

theorem isText_writeChar (c : Char) : IsText (writeChar c) := by
  -- an escape of two characters
  have short : ∀ d : Char, d.toNat < 0x80 → IsText (asciiBytes ['\\', d]) := by
    intro d hd
    exact isText_asciiBytes (List.forall_mem_cons.2 ⟨by decide, List.forall_mem_singleton.2 hd⟩)
  have numbered : IsText (asciiBytes (['\\', 'u', '0', '0'] ++ hexPair c.toNat)) := by
    rw [asciiBytes, List.map_append]
    exact (isText_ascii ['\\', 'u', '0', '0'] (by decide)).append (isText_hexPair _)
  rw [writeChar]
  split
  · exact short '"' (by decide)
  split
  · exact short '\\' (by decide)
  split
  · split
    · exact short 'b' (by decide)
    split
    · exact short 'f' (by decide)
    split
    · exact short 'n' (by decide)
    split
    · exact short 'r' (by decide)
    split
    · exact short 't' (by decide)
    · exact numbered
  · exact isText_encodeChar c

theorem isText_writeText (s : String) : IsText (writeText s) := by
  have close : IsText [ascii '"'] := isText_ascii ['"'] (by decide)
  exact .cons (by decide) ((isText_flatMap isText_writeChar).append close)

theorem isText_of_numerals {cs : List Char} (h : ∀ c ∈ cs, Numeral c) : IsText (asciiBytes cs) :=
  isText_asciiBytes fun c hc => (h c hc).toNat_le.2

theorem isText_writeNumber (n : Number) : IsText (writeNumber n) := by
  cases n with
  | int n =>
    have digits := isText_of_numerals (numeral_toDigits n.natAbs)
    rw [writeNumber, writeInt]
    split
    · exact digits.cons (by decide)
    · exact digits
  | double d => exact isText_of_numerals (numerals_text .plain d).2

theorem isText_writeBool (b : Bool) : IsText (writeBool b) := by
  cases b <;> exact isText_ascii _ (by decide)

mutual

/-- **A written value is a text.** -/
theorem isText_write : ∀ v : Value, IsText v.write
  | .null => by
    rw [Value.write]
    exact isText_ascii _ (by decide)
  | .bool b => by
    rw [Value.write]
    exact isText_writeBool b
  | .number n => by
    rw [Value.write]
    exact isText_writeNumber n
  | .text s => by
    rw [Value.write]
    exact isText_writeText s
  | .array [] => by
    rw [Value.write]
    exact isText_ascii _ (by decide)
  | .array (v :: rest) => by
    rw [Value.write]
    exact ((isText_write v).append (isText_writeItems rest)).cons (by decide)
  | .object [] => by
    rw [Value.write]
    exact isText_ascii _ (by decide)
  | .object (m :: rest) => by
    have value := (isText_write m.2).append (isText_writeMembers rest)
    rw [Value.write]
    exact ((isText_writeText m.1).append (value.cons (by decide))).cons (by decide)

theorem isText_writeItems : ∀ items : List Value, IsText (writeItems items)
  | [] => by
    rw [writeItems]
    exact isText_ascii [']'] (by decide)
  | v :: rest => by
    rw [writeItems]
    exact ((isText_write v).append (isText_writeItems rest)).cons (by decide)

theorem isText_writeMembers : ∀ members : List (String × Value), IsText (writeMembers members)
  | [] => by
    rw [writeMembers]
    exact isText_ascii ['\x7d'] (by decide)
  | m :: rest => by
    have value := (isText_write m.2).append (isText_writeMembers rest)
    rw [writeMembers]
    exact ((isText_writeText m.1).append (value.cons (by decide))).cons (by decide)

end

/-- **The text of a value has its bytes.** -/
theorem encode_render (v : Value) : Utf8.encode v.render = v.write := by
  obtain ⟨cs, hcs⟩ := isText_write v
  have hs : v.write = Utf8.encode (String.ofList cs) := by
    rw [hcs, ← flatMap_encodeChar, String.toList_ofList]
  rw [Value.render, hs, Utf8.decode_encode, Option.getD_some]

end Overseer.Json
