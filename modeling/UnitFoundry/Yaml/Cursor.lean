import UnitFoundry.Raised

/-!
# The place in a document

A YAML document is read character by character. The place keeps count of lines, columns and
characters: columns decide how blocks nest, and a key must not be long.

* `Cursor`, `Reading` — the place, and readers that may fail;
* `unreadable` — the failure of a document that breaks the rules;
* `passWhile`, `lineBreak` — characters of a kind, and the break at the end of a line;
* `isMark` — the marks that separate documents.
-/

namespace UnitFoundry.Yaml

/-! ## Kinds of characters -/

/-- Whether a character ends a line. -/
def isBreak (c : Char) : Bool :=
  c = '\n' || c = '\r' || c = '\u0085' || c = '\u2028' || c = '\u2029'

/-- Whether a character is a blank or a tab. -/
def isWhite (c : Char) : Bool := c = ' ' || c = '\t'

/-- Whether a text begins with a line break, or is at its end. -/
def startsBreak : List Char → Bool
  | [] => true
  | c :: _ => isBreak c

/-- Whether a text begins with a blank or a line break, or is at its end. -/
def startsGap : List Char → Bool
  | [] => true
  | c :: _ => c = ' ' || isBreak c

/-- Whether a text begins with a blank, a tab or a line break, or is at its end. -/
def startsBlank : List Char → Bool
  | [] => true
  | c :: _ => isWhite c || isBreak c

/-- Whether a document may have a character in it. -/
def isAllowed (c : Char) : Bool :=
  let n := c.toNat
  n = 0x9 || n = 0xA || n = 0xD || (0x20 ≤ n && n ≤ 0x7E) || n = 0x85 || (0xA0 ≤ n && n ≤ 0xD7FF) ||
    (0xE000 ≤ n && n ≤ 0xFFFD) || 0x10000 ≤ n

/-- Whether a character may stand in the name of an anchor or of a tag's home. -/
def isNameChar (c : Char) : Bool := c.isAlphanum || c = '-' || c = '_'

/-- Whether a character is a hexadecimal digit. -/
def isHex (c : Char) : Bool := c.isDigit || ('a' ≤ c && c ≤ 'f') || ('A' ≤ c && c ≤ 'F')

/-- Whether a text begins with a mark that separates documents. -/
def isMark (mark : String) (s : List Char) : Bool :=
  String.ofList (s.take 3) = mark && startsBlank (s.drop 3)

/-- Whether a text begins with one of the two marks that separate documents. -/
def startsMark (s : List Char) : Bool := isMark "---" s || isMark "..." s

/-! ## Places -/

/-- What is left of a document, and where that begins. -/
structure Cursor where
  rest : List Char
  line : Nat := 0
  column : Nat := 0
  /-- The number of characters before the place. -/
  index : Nat := 0

namespace Cursor

/-- The place after the next character. A carriage return and the line feed after it are one break;
an order mark has no width. -/
def advance (c : Cursor) : Cursor :=
  match c.rest with
  | [] => c
  | char :: rest =>
    if isBreak char && !(char = '\r' && rest.head? = some '\n') then
      { rest, line := c.line + 1, column := 0, index := c.index + 1 }
    else
      { rest, line := c.line, column := if char = '\ufeff' then c.column else c.column + 1
        index := c.index + 1 }

/-- The place after some characters. -/
def advanceBy : Nat → Cursor → Cursor
  | 0, c => c
  | count + 1, c => advanceBy count c.advance

end Cursor

/-! ## Readers -/

/-- A reader that may fail. -/
abbrev Reading := EStateM Raised Cursor

/-- The failure of a document that breaks the rules. -/
def unreadable : Raised := { kind := "YAMLError", message := "" }

/-- The reader that fails because the document breaks the rules. -/
def refuse : Reading α := throw unreadable

/-- What is left of the document. -/
def rest : Reading (List Char) := do pure (← get).rest

/-- The next character. -/
def next? : Reading (Option Char) := do pure (← rest).head?

/-- Characters are passed. -/
def pass (count : Nat) : Reading Unit := modify (Cursor.advanceBy count)

/-- The characters of a kind from here on are passed. -/
def passWhile (kind : Char → Bool) : Reading (List Char) := do
  let found := (← rest).takeWhile kind
  pass found.length
  pure found

/-- A step count that is enough for what is left, if every step passes a character. -/
def stepsLeft : Reading Nat := do pure ((← rest).length + 1)

/-- The break that stands here, as it counts in a text; nothing if there is none. -/
def lineBreak : Reading (List Char) := do
  match ← rest with
  | '\r' :: '\n' :: _ => do
    pass 2
    pure ['\n']
  | c :: _ =>
    if c = '\u2028' || c = '\u2029' then
      pass 1
      pure [c]
    else if isBreak c then
      pass 1
      pure ['\n']
    else pure []
  | [] => pure []

/-- What a run of breaks inside a scalar stands for: a blank if it is but one. -/
def folded (first breaks : List Char) : List Char :=
  if first != ['\n'] then first ++ breaks else if breaks.isEmpty then [' '] else breaks

/-- The rest of a line that may only hold blanks and a comment is passed, with the break. -/
def blankLine : Reading Unit := do
  let _ ← passWhile (· = ' ')
  if (← next?) = some '#' then
    let _ ← passWhile fun c => !isBreak c
  if !startsBreak (← rest) then refuse
  let _ ← lineBreak

end UnitFoundry.Yaml
