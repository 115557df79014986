import Overseer.Time.Moment
import Overseer.Wire.Envelope

/-!
# What the client sends

The envelope around its messages, and the introduction that it begins every connection with.
-/

namespace Overseer.Engine

open Overseer.Time Overseer.Wire

/-- A message of `sender` at a point in time. -/
def envelopeOf (sender : String) (at_ : Moment) (requestId : Option String) (m : Message) :
    Envelope :=
  ⟨currentVersion, sender, at_.textWithOffset, requestId, m⟩

/-- The introduction of a client. -/
def introduction (sender : String) : Hello := ⟨sender, "monitor", ["log", "status", "command"]⟩

/-- The first message of a connection. -/
def greeting (sender : String) (at_ : Moment) : Envelope :=
  envelopeOf sender at_ none (.hello (introduction sender))

end Overseer.Engine
