/-!
# Text as bytes

UTF-8 in both directions. `decode_encode` says that every text reads back.
-/

namespace Overseer.Text.Utf8

/-- The bytes of a text. -/
def encode (s : String) : List UInt8 := s.toUTF8.data.toList

/-- The bytes of one character. -/
def encodeChar (c : Char) : List UInt8 := String.utf8EncodeChar c

/-- The text of a sequence of bytes, if it is one. -/
def decode (bs : List UInt8) : Option String := String.fromUTF8? ⟨bs.toArray⟩

theorem fromUTF8?_eq {b : ByteArray} {s : String} (h : b = s.toByteArray) :
    String.fromUTF8? b = some s := by
  subst h
  simp only [String.fromUTF8?, dif_pos s.isValidUTF8]
  exact congrArg some (String.toByteArray_inj.1 rfl)

theorem decode_encode (s : String) : decode (encode s) = some s :=
  fromUTF8?_eq (by simp [encode])

end Overseer.Text.Utf8
