import Overseer.Text.CaseTable

/-!
# Lower case

Lower-casing by the full Unicode rules that do not depend on a language: one letter becomes one
letter, except that a capital I with a dot becomes an i and a combining dot, and that a capital
sigma at the end of a word becomes a final sigma.
-/

namespace Overseer.Text

/-- The lower-case form of a character outside any context. -/
def lowerChar (c : Char) : List Char :=
  if c.toNat < 0x80 then [c.toLower]
  else if c.toNat == 0x130 then ['i', Char.ofNat 0x307]
  else [Char.ofNat ((caseRuns.findSome? (·.lower? c.toNat)).getD c.toNat)]

/-- The nearest character that is not skipped is a letter with case. -/
def nextIsCased (cs : List Char) : Bool :=
  match cs.dropWhile fun c => inRanges caseIgnorableRanges c.toNat with
  | c :: _ => inRanges casedRanges c.toNat
  | [] => false

/-- A capital sigma between `before` (nearest first) and `after` ends a word. -/
def endsWord (before after : List Char) : Bool := nextIsCased before && !nextIsCased after

/-- Lower-cases `cs`, which follows `before` (nearest first); `done` is the result so far, last
character first. -/
def lowerAfter : List Char → List Char → List Char → List Char
  | _, [], done => done.reverse
  | before, c :: cs, done =>
    let low :=
      if c.toNat == 0x3A3 then
        [if endsWord before cs then Char.ofNat 0x3C2 else Char.ofNat 0x3C3]
      else lowerChar c
    lowerAfter (c :: before) cs (low.reverse ++ done)

/-- The text in lower case. -/
def lowercase (s : String) : String := String.ofList (lowerAfter [] s.toList [])

/-- The same letters, where ASCII letters of either case count as one. -/
def sameLetters (a b : String) : Bool := a.toList.map Char.toLower == b.toList.map Char.toLower

end Overseer.Text
