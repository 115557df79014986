import Overseer.Host.Path
import Overseer.Table
import Overseer.Text.Blank

/-!
# The environment

The variables of the environment, and the directories that they name.
-/

namespace Overseer.Host

open Overseer.Text

/-- The variables that are set. -/
abbrev Environment := Table String

namespace Environment

/-- The value of a variable with content. -/
def filled? (env : Environment) (name : String) : Option String :=
  (env.get? name).filter fun v => !blank v

/-- The directory of the user. -/
def home (env : Environment) : String := (env.get? "HOME").getD "."

/-- The directory for temporary files. -/
def temporary (env : Environment) : String := (env.get? "TMPDIR").getD "/tmp"

/-- A directory that a variable may name; otherwise one within that of the user. -/
def userDir (env : Environment) (name : String) (within : List String) : String :=
  (env.filled? name).getD (within.foldl Path.join env.home)

end Environment

end Overseer.Host
