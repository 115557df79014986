import Overseer.Time.Span

/-!
# When the engine cannot be reached

Why there is no connection, with the wording.
-/

namespace Overseer.Engine

open Overseer.Time

/-- Why there is no connection. -/
inductive ConnectError where
  /-- It did not come about in time. -/
  | timeout (socket : String) (after : Span)
  /-- Nobody tries any more. -/
  | stopped
  deriving DecidableEq, Repr

/-- The wording of a failure. -/
def ConnectError.message : ConnectError → String
  | .timeout socket after => "engine socket " ++ socket ++ " not reachable within " ++ after.text
  | .stopped => "engine client task stopped"

end Overseer.Engine
