import Overseer.Text.Utf8

/-!
# Files

What there is under a path, and the text of it.
-/

namespace Overseer.Host

open Overseer.Text

/-- What there is under a path. -/
inductive FileContent where
  | missing
  /-- Something that cannot be read as a file, and why. -/
  | unreadable (why : String)
  | bytes (bs : List UInt8)

namespace FileContent

/-- What is said when a directory is read. -/
def isDirectory : String := "Is a directory (os error 21)"

/-- What is said when bytes are no text. -/
def notText : String := "stream did not contain valid UTF-8"

/-- The text of a file, if there is one, or why it cannot be read. -/
def text : FileContent → Except String (Option String)
  | .missing => .ok none
  | .unreadable why => .error why
  | .bytes bs =>
    match Utf8.decode bs with
    | some s => .ok (some s)
    | none => .error notText

end FileContent

end Overseer.Host
