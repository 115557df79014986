/-!
# Columns

Text filled with spaces on the right to a width counted in characters.
-/

namespace Overseer.Text

/-- `s` with spaces after it up to `width` characters; a longer text stays whole. -/
def padRight (width : Nat) (s : String) : String :=
  s ++ String.ofList (List.replicate (width - s.length) ' ')

end Overseer.Text
