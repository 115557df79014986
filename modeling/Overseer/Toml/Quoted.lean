import Overseer.Toml.Scan

/-!
# Texts and keys in TOML

The four kinds of quoted texts: with escapes or without, on one line or on several. A key is a
quoted text on one line or a run of plain letters, and keys are joined by points.
-/

namespace Overseer.Toml

/-- What may stand for itself in a text. -/
def isInText (quote : Char) (c : Char) : Bool := isPlain c && c != quote

/-- The character with a number, if there is one. -/
def charOf? (n : Nat) : Option Char := if n.isValidChar then some (Char.ofNat n) else none

/-- A character given by `n` hexadecimal digits. -/
def numbered (n : Nat) : Scan Char := fun cs =>
  let ds := cs.take n
  if ds.length = n ∧ ds.all (isDigitOf 16) then
    (charOf? (numberOf 16 ds)).map fun c => (c, cs.drop n)
  else none

/-- The character of an escape, behind the backslash. -/
def escape : Scan Char
  | '"' :: rest => some ('"', rest)
  | '\\' :: rest => some ('\\', rest)
  | 'b' :: rest => some (Char.ofNat 8, rest)
  | 'f' :: rest => some (Char.ofNat 12, rest)
  | 'n' :: rest => some ('\n', rest)
  | 'r' :: rest => some ('\r', rest)
  | 't' :: rest => some ('\t', rest)
  | 'u' :: rest => numbered 4 rest
  | 'U' :: rest => numbered 8 rest
  | _ => none

/-- The rest of a text with escapes on one line; `done` is kept last first. -/
def escapedRest : Nat → List Char → List Char → Option (String × List Char)
  | 0, _, _ => none
  | fuel + 1, cs, done =>
    match cs with
    | '"' :: rest => some (String.ofList done.reverse, rest)
    | '\\' :: rest => (escape rest).bind fun r => escapedRest fuel r.2 (r.1 :: done)
    | c :: rest => if isInText '"' c then escapedRest fuel rest (c :: done) else none
    | [] => none

/-- The rest of a text without escapes on one line. -/
def literalRest (cs : List Char) : Option (String × List Char) :=
  let text := cs.takeWhile (isInText '\'')
  (mark '\'' (cs.drop text.length)).map fun rest => (String.ofList text, rest)

/-- The end of a text on several lines: three quotes, with up to two more that belong to the
text. -/
def closing? (quote : Char) (cs : List Char) : Option (List Char × List Char) :=
  let quotes := (cs.takeWhile (· == quote)).length
  if 3 ≤ quotes then
    let extra := min (quotes - 3) 2
    some (List.replicate extra quote, cs.drop (extra + 3))
  else none

/-- What follows a backslash at the end of a line: all blanks and ends of lines are skipped. -/
def continued? (cs : List Char) : Option (List Char) :=
  (newline? (skipSpace cs)).map (skipBlankLines cs.length)
where
  /-- Characters without blanks and ends of lines in front. -/
  skipBlankLines : Nat → List Char → List Char
    | 0, cs => cs
    | fuel + 1, cs =>
      match newline? (skipSpace cs) with
      | some rest => skipBlankLines fuel rest
      | none => skipSpace cs

/-- The rest of a text on several lines; `escapes` tells whether backslashes have a meaning. -/
def linesRest (quote : Char) (escapes : Bool) :
    Nat → List Char → List Char → Option (String × List Char)
  | 0, _, _ => none
  | fuel + 1, cs, done =>
    match closing? quote cs with
    | some (extra, rest) => some (String.ofList (done.reverse ++ extra), rest)
    | none =>
      match newline? cs with
      | some rest => linesRest quote escapes fuel rest ('\n' :: done)
      | none =>
        match cs with
        | [] => none
        | c :: rest =>
          if escapes && c == '\\' then
            match continued? rest with
            | some rest => linesRest quote escapes fuel rest done
            | none => (escape rest).bind fun r => linesRest quote escapes fuel r.2 (r.1 :: done)
          else if isPlain c then linesRest quote escapes fuel rest (c :: done)
          else none

/-- Characters without one end of line in front. -/
def skipNewline (cs : List Char) : List Char := (newline? cs).getD cs

/-- A quoted text of any kind. -/
def text : Scan String
  | '"' :: '"' :: '"' :: rest => linesRest '"' true (rest.length + 1) (skipNewline rest) []
  | '\'' :: '\'' :: '\'' :: rest => linesRest '\'' false (rest.length + 1) (skipNewline rest) []
  | '"' :: rest => escapedRest (rest.length + 1) rest []
  | '\'' :: rest => literalRest rest
  | _ => none

/-- A letter of a plain key. -/
def isKeyLetter (c : Char) : Bool := c.isAlphanum || c == '-' || c == '_'

/-- A key without points. -/
def simpleKey : Scan String
  | '"' :: rest => escapedRest (rest.length + 1) rest []
  | '\'' :: rest => literalRest rest
  | cs =>
    let name := cs.takeWhile isKeyLetter
    if name.isEmpty then none else some (String.ofList name, cs.drop name.length)

/-- Keys joined by points; `done` is kept last first. -/
def keyRest : Nat → List Char → List String → Option (List String × List Char)
  | 0, _, _ => none
  | fuel + 1, cs, done =>
    (simpleKey (skipSpace cs)).bind fun r =>
      let cs := skipSpace r.2
      match cs with
      | '.' :: rest => keyRest fuel rest (r.1 :: done)
      | _ => some ((r.1 :: done).reverse, cs)

/-- The limit of nesting: keys have fewer parts, and arrays and inline tables fewer levels. -/
def nestingLimit : Nat := 80

/-- A key with its parts, and the blanks around it. -/
def key : Scan (List String) := fun cs =>
  (keyRest (cs.length + 1) cs []).filter fun r => r.1.length < nestingLimit

end Overseer.Toml
