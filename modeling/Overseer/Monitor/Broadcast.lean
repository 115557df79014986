import Overseer.Batch.Log

/-!
# Broadcast of log entries

Every follower of the log gets its entries in order. A follower that falls behind by more than the
broadcast keeps is told once how many it missed and goes on with the oldest entry that is kept.
-/

namespace Overseer.Monitor

open Overseer.Batch

/-- How many entries the broadcast keeps for a follower. -/
def broadcastCapacity : Nat := 1024

/-- What a follower has yet to take. -/
structure Follower where
  /-- The entries that are kept, oldest first. -/
  waiting : List LogEntry
  /-- How many entries before them were dropped. -/
  missed : Nat
  deriving DecidableEq, Repr

/-- What a follower takes. -/
inductive Heard where
  | entry (e : LogEntry)
  /-- The news that so many entries were missed. -/
  | missed (n : Nat)
  deriving DecidableEq, Repr

namespace Follower

/-- A follower that has nothing to take. -/
def fresh : Follower := ⟨[], 0⟩

/-- Sends an entry. -/
def send (f : Follower) (e : LogEntry) : Follower :=
  if f.waiting.length < broadcastCapacity then { f with waiting := f.waiting ++ [e] }
  else ⟨f.waiting.drop 1 ++ [e], f.missed + 1⟩

/-- Sends entries in order: what would be more than the broadcast keeps is dropped. -/
def sendAll (f : Follower) (es : List LogEntry) : Follower :=
  let all := f.waiting ++ es
  let excess := all.length - broadcastCapacity
  ⟨all.drop excess, f.missed + excess⟩

/-- Takes what comes next, if anything does. -/
def take? (f : Follower) : Option (Heard × Follower) :=
  if f.missed ≠ 0 then some (.missed f.missed, { f with missed := 0 })
  else
    match f.waiting with
    | [] => none
    | e :: rest => some (.entry e, { f with waiting := rest })

/-- All that a follower has yet to take. -/
def pending (f : Follower) : List Heard :=
  (if f.missed = 0 then [] else [.missed f.missed]) ++ f.waiting.map .entry

end Follower

end Overseer.Monitor
