/-!
# Paths

Names of files as text.
-/

namespace Overseer.Host.Path

/-- The path of `name` within `dir`; a name from the root stands for itself. -/
def join (dir name : String) : String :=
  if name.startsWith "/" then name
  else if dir.isEmpty || dir.endsWith "/" then dir ++ name
  else dir ++ "/" ++ name

end Overseer.Host.Path
