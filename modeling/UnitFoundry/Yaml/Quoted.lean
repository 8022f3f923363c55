import UnitFoundry.Text.Numeral
import UnitFoundry.Yaml.Cursor

/-!
# Quoted scalars

A scalar between quotes may go on over several lines. The blanks around a break do not count, and a
single break stands for a blank. Between double quotes a backslash begins an escape.

* `Spelling` — the text of a scalar, which may hold what no text can;
* `escapes`, `escapeWidth?` — what may follow a backslash;
* `quotedScalar` — a scalar between quotes.
-/

namespace UnitFoundry.Yaml

open Text

/-! ## Spellings -/

/-- The text of a scalar. An escape may name a half of a character, which no text can hold; `torn`
is then the quoted form of all of it. -/
structure Spelling where
  text : String
  torn : Option String := none
  deriving Repr, DecidableEq

namespace Spelling

/-- Whether a code point is half of a character. -/
def isHalf (code : Nat) : Bool := 0xD800 ≤ code && code ≤ 0xDFFF

/-- The spelling with given code points. -/
def ofCodes (codes : List Nat) : Spelling :=
  let chars := codes.map fun code => if isHalf code then '\ufffd' else Char.ofNat code
  let mark := quoteMark chars
  let shown := codes.flatMap fun code =>
    if isHalf code then '\\' :: 'u' :: hexPadded 4 code else quoteChar mark (Char.ofNat code)
  { text := String.ofList chars
    torn := if codes.any isHalf then some (String.ofList (mark :: shown ++ [mark])) else none }

end Spelling

/-! ## Blanks and breaks -/

/-- The breaks of the lines that begin here and hold nothing, with the blanks before the text that
follows. A mark that separates documents must not stand there. -/
def emptyLines : Nat → Reading (List Char)
  | 0 => pure []
  | steps + 1 => do
    if startsMark (← rest) then refuse
    let _ ← passWhile isWhite
    match ← lineBreak with
    | [] => pure []
    | found => do pure (found ++ (← emptyLines steps))

/-- The blanks and breaks that stand here in a quoted scalar, as they count in its text. -/
def quotedBlank : Reading (List Char) := do
  let white ← passWhile isWhite
  match ← rest with
  | [] => refuse
  | c :: _ =>
    if isBreak c then
      let first ← lineBreak
      pure (folded first (← emptyLines (← stepsLeft)))
    else pure white

/-! ## Escapes -/

/-- The character that a backslash and a letter stand for. -/
def escapes : List (Char × Char) :=
  [('0', '\x00'), ('a', '\x07'), ('b', '\x08'), ('t', '\t'), ('\t', '\t'), ('n', '\n'), ('v', '\x0b'),
   ('f', '\x0c'), ('r', '\r'), ('e', '\x1b'), (' ', ' '), ('"', '"'), ('/', '/'), ('\\', '\\'),
   ('N', '\u0085'), ('_', '\u00a0'), ('L', '\u2028'), ('P', '\u2029')]

/-- How many hexadecimal digits follow a backslash and a letter. -/
def escapeWidth? : Char → Option Nat
  | 'x' => some 2
  | 'u' => some 4
  | 'U' => some 8
  | _ => none

/-- A number as a code point, which there must be. -/
def codePoint (n : Nat) : Except Raised Nat :=
  if twoTo 31 ≤ n then
    .error { kind := "OverflowError", message := "Python int too large to convert to C int" }
  else if 0x110000 ≤ n then
    .error { kind := "ValueError", message := "chr() arg not in range(0x110000)" }
  else .ok n

/-- The code points of characters. -/
def codesOf (chars : List Char) : List Nat := chars.map Char.toNat

/-- The code points that an escape stands for; its backslash has been passed. -/
def escaped : Reading (List Nat) := do
  match ← rest with
  | [] => refuse
  | c :: after =>
    match (escapes.find? (·.1 = c)).map (·.2), escapeWidth? c with
    | some char, _ => do
      pass 1
      pure [char.toNat]
    | none, some width => do
      let digits := after.take width
      if digits.length = width && digits.all isHex then
        let code ← ofExcept (codePoint ((digitsValue? 16 digits).getD 0))
        pass (width + 1)
        pure [code]
      else refuse
    | none, none =>
      if isBreak c then
        let _ ← lineBreak
        pure (codesOf (← emptyLines (← stepsLeft)))
      else refuse

/-! ## Scalars -/

/-- The code points of a quoted scalar up to its closing quote, in at most so many steps. -/
def quotedRest (quote : Char) : Nat → Reading (List Nat)
  | 0 => refuse
  | steps + 1 => do
    let found ← passWhile fun c => !(c = '\'' || c = '"' || c = '\\' || isWhite c || isBreak c)
    let here ← rest
    let double := quote = '"'
    let part ← match here with
      | [] => refuse
      | c :: after =>
        if !double && c = '\'' && after.head? = some '\'' then do
          pass 2
          pure (codesOf ['\''])
        else if c = quote then pure []
        else if double && c = '\\' then do
          pass 1
          escaped
        else if c = '\'' || c = '"' || c = '\\' then do
          pass 1
          pure [c.toNat]
        else do pure (codesOf (← quotedBlank))
    match here with
    | c :: after =>
      if c = quote && (double || after.head? != some '\'') then
        pass 1
        pure (codesOf found)
      else do pure (codesOf found ++ part ++ (← quotedRest quote steps))
    | [] => refuse

/-- A scalar between quotes, which begins here. -/
def quotedScalar : Reading Spelling := do
  match ← rest with
  | quote :: _ => do
    pass 1
    pure (.ofCodes (← quotedRest quote (← stepsLeft)))
  | [] => refuse

end UnitFoundry.Yaml
