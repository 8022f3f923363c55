import UnitFoundry.Text.Decimal
import UnitFoundry.Text.Lines
import UnitFoundry.Text.Numeral
import UnitFoundry.Text.Printable
import UnitFoundry.Text.Split

/-!
# The tokens of a script

A source is cut into names, numbers, texts, operators and the ends of lines; blocks begin with an
indent and end with dedents. Every token has the line and the column that a message about it gives.
A source that cannot be cut ends with a token that says why.

* `Token` — a token and its place;
* `NumberBase` — the bases that numbers are written in;
* `unescape` — the text that a literal denotes;
* `Cutter` — what is left of a source, and what is open at that point;
* `tokens` — the tokens of a source.
-/

namespace UnitFoundry.Script

open UnitFoundry.Text

/-- What is wrong with a source, and where. -/
structure SyntaxFault where
  category : String := "SyntaxError"
  message : String
  line : Nat
  column : Nat
  deriving Repr, DecidableEq

/-- The bases that numbers are written in. -/
inductive NumberBase where
  | binary
  | octal
  | decimal
  | hexadecimal
  deriving Repr, DecidableEq

/-- What a token is. -/
inductive TokenKind where
  | name (id : String)
  | number (base : NumberBase) (digits : String)
  /-- A text literal with the text it denotes, and the character of its first unknown escape. -/
  | text (value : String) (formatted : Bool) (unknownEscape : Option Char)
  | mark (symbol : String)
  | newline
  | indent
  | dedent
  | finish
  /-- The source cannot be cut any further. -/
  | fault (category message : String)
  /-- The source ends inside a bracket, which stands at the place of this token. -/
  | unclosed (bracket : Char)
  deriving Repr, DecidableEq

/-- A token and the place that a message about it gives. -/
structure Token where
  kind : TokenKind
  line : Nat
  column : Nat
  deriving Repr, DecidableEq

/-! ## Bases -/

namespace NumberBase

/-- The number of digits of a base. -/
def size : NumberBase → Nat
  | binary => 2
  | octal => 8
  | decimal => 10
  | hexadecimal => 16

/-- The name of a base in messages. -/
def label : NumberBase → String
  | binary => "binary"
  | octal => "octal"
  | decimal => "decimal"
  | hexadecimal => "hexadecimal"

/-- How a number announces its base. -/
def mark : NumberBase → List Char
  | binary => ['0', 'b']
  | octal => ['0', 'o']
  | decimal => []
  | hexadecimal => ['0', 'x']

/-- The base that is announced where a number begins. -/
def ofStart? (s : List Char) : Option NumberBase :=
  [binary, octal, hexadecimal].find? fun base => (s.take 2).map Char.toLower = base.mark

/-- Whether a character is a digit of a base. -/
def hasDigit (base : NumberBase) (c : Char) : Bool :=
  match digitOf? c with
  | some digit => digit < base.size
  | none => false

end NumberBase

/-! ## Text literals -/

/-- The character whose number hexadecimal digits denote. -/
def hexChar? (digits : List Char) : Option Char :=
  (digits.foldl (fun value c => do
    let value ← value
    let digit ← digitOf? c
    pure (16 * value + digit)) (some 0)).map Char.ofNat

/-- Whether a character is an octal digit. -/
def isOctal (c : Char) : Bool := '0' ≤ c && c ≤ '7'

/-- The character whose number octal digits denote. -/
def octalChar (digits : List Char) : Char :=
  Char.ofNat (digits.foldl (fun value c => 8 * value + (c.toNat - '0'.toNat)) 0)

/-- The character that a backslash and one character denote. -/
def simpleEscape? : Char → Option (List Char)
  | '\n' => some []
  | '\\' => some ['\\']
  | '\'' => some ['\'']
  | '"' => some ['"']
  | 'a' => some ['\x07']
  | 'b' => some ['\x08']
  | 'f' => some ['\x0c']
  | 'n' => some ['\n']
  | 'r' => some ['\r']
  | 't' => some ['\t']
  | 'v' => some ['\x0b']
  | _ => none

/-- A character in front of an unescaped text. -/
def consUnescaped (chars : List Char) (rest : List Char × Option Char) : List Char × Option Char :=
  (chars ++ rest.1, rest.2)

/-- An unknown escape in front of an unescaped text: it is kept as it stands, and noted. -/
def consUnknown (c : Char) (rest : List Char × Option Char) : List Char × Option Char :=
  ('\\' :: c :: rest.1, some c)

/-- The text that the inside of a literal denotes, and the character of its first unknown escape. -/
def unescape : List Char → List Char × Option Char
  | [] => ([], none)
  | '\\' :: 'x' :: a :: b :: rest =>
    match hexChar? [a, b] with
    | some c => consUnescaped [c] (unescape rest)
    | none => consUnescaped ['\\', 'x', a, b] (unescape rest)
  | '\\' :: 'u' :: a :: b :: c :: d :: rest =>
    match hexChar? [a, b, c, d] with
    | some e => consUnescaped [e] (unescape rest)
    | none => consUnescaped ['\\', 'u', a, b, c, d] (unescape rest)
  | '\\' :: 'U' :: a :: b :: c :: d :: e :: f :: g :: h :: rest =>
    match hexChar? [a, b, c, d, e, f, g, h] with
    | some i => consUnescaped [i] (unescape rest)
    | none => consUnescaped ['\\', 'U', a, b, c, d, e, f, g, h] (unescape rest)
  | '\\' :: a :: b :: c :: rest =>
    if isOctal a && isOctal b && isOctal c then consUnescaped [octalChar [a, b, c]] (unescape rest)
    else if isOctal a && isOctal b then consUnescaped [octalChar [a, b]] (unescape (c :: rest))
    else if isOctal a then consUnescaped [octalChar [a]] (unescape (b :: c :: rest))
    else
      match simpleEscape? a with
      | some chars => consUnescaped chars (unescape (b :: c :: rest))
      | none => consUnknown a (unescape (b :: c :: rest))
  | ['\\', a, b] =>
    if isOctal a && isOctal b then ([octalChar [a, b]], none)
    else if isOctal a then consUnescaped [octalChar [a]] (unescape [b])
    else
      match simpleEscape? a with
      | some chars => consUnescaped chars (unescape [b])
      | none => consUnknown a (unescape [b])
  | ['\\', a] =>
    if isOctal a then ([octalChar [a]], none)
    else
      match simpleEscape? a with
      | some chars => (chars, none)
      | none => (['\\', a], some a)
  | c :: rest => consUnescaped [c] (unescape rest)

/-- The inside of a literal and what follows its closing mark, or the number of line breaks passed
before it was clear that the mark is missing. -/
def cutLiteral (mark : Char) (long : Bool) : List Char → Except Nat (List Char × List Char)
  | [] => .error 0
  | '\\' :: c :: rest =>
    match cutLiteral mark long rest with
    | .ok (inside, after) => .ok ('\\' :: c :: inside, after)
    | .error passed => .error (if c = '\n' then passed + 1 else passed)
  | c :: rest =>
    let closed := if long then dropStart? [mark, mark, mark] (c :: rest)
      else if c = mark then some rest else none
    match closed with
    | some after => .ok ([], after)
    | none =>
      if !long && c = '\n' then .error 0
      else
        match cutLiteral mark long rest with
        | .ok (inside, after) => .ok (c :: inside, after)
        | .error passed => .error (if c = '\n' then passed + 1 else passed)

/-! ## Marks and names -/

/-- The marks of more than one character, the longest first. -/
def longMarks : List String :=
  ["**=", "//=", ">>=", "<<=", "...", "!=", "==", "<=", ">=", "->", "+=", "-=", "*=", "/=", "%=",
   "&=", "|=", "^=", "@=", ":=", "**", "//", "<<", ">>"]

/-- Whether a name may begin with a character. -/
def isNameStart (c : Char) : Bool := c.isAlpha || c = '_' || (c.toNat ≥ 128 && isPrintable c)

/-- Whether a name may go on with a character. -/
def isNamePart (c : Char) : Bool := isNameStart c || c.isDigit

/-- Whether an ASCII character may be a part of a name. -/
def isNarrowNamePart (c : Char) : Bool := c.isAlphanum || c = '_'

/-- The closing bracket that belongs to an opening one. -/
def closing? : Char → Option Char
  | '(' => some ')'
  | '[' => some ']'
  | '\x7b' => some '\x7d'
  | _ => none

/-- Whether a character closes a bracket. -/
def isClosing (c : Char) : Bool := c = ')' || c = ']' || c = '\x7d'

/-- The four or more upper-case hexadecimal digits of a character's number. -/
def codePointText (c : Char) : String :=
  let digits := (Nat.toDigits 16 c.toNat).map Char.toUpper
  "U+" ++ String.ofList (List.replicate (4 - digits.length) '0' ++ digits)

/-! ## Cutting -/

/-- What is left of a source and where that begins; the columns count characters from zero. -/
structure Cutter where
  rest : List Char
  line : Nat := 1
  column : Nat := 0
  /-- Whether a line begins here whose indentation counts. -/
  fresh : Bool := true
  /-- The indentations of the open blocks, the innermost first. -/
  indents : List Nat := []
  /-- The open brackets and their places, the innermost first. -/
  brackets : List (Char × Nat × Nat) := []

namespace Cutter

/-- The place after all lines. -/
def finish (lineCount lastWidth : Nat) : Nat × Nat := (lineCount, lastWidth + 1)

/-- A cutter after some characters of its line. -/
def advance (c : Cutter) (count : Nat) : Cutter :=
  { c with rest := c.rest.drop count, column := c.column + count }

/-- A cutter after a line break. -/
def nextLine (c : Cutter) (rest : List Char) (fresh : Bool) : Cutter :=
  { c with rest, line := c.line + 1, column := 0, fresh }

/-- A token at the place of a cutter. -/
def token (c : Cutter) (kind : TokenKind) : Token := ⟨kind, c.line, c.column + 1⟩

/-- The width of an indentation and the number of its characters. -/
def indentation (width count : Nat) : List Char → Nat × Nat
  | ' ' :: rest => indentation (width + 1) (count + 1) rest
  | '\t' :: rest => indentation ((width / 8 + 1) * 8) (count + 1) rest
  | '\x0c' :: rest => indentation 0 (count + 1) rest
  | _ => (width, count)

/-- The tokens that an indentation stands for, and the cutter after it. -/
def cutIndentation (c : Cutter) : List Token × Option Cutter :=
  let (width, count) := indentation 0 0 c.rest
  let here := c.advance count
  match here.rest with
  | [] => ([], some { here with fresh := false })
  | '\n' :: rest => ([], some (here.nextLine rest true))
  | '#' :: rest =>
    let after := rest.dropWhile (· != '\n')
    ([], some (here.nextLine (after.drop 1) true))
  | _ =>
    let place (kind : TokenKind) : Token := ⟨kind, here.line, here.column⟩
    let current := c.indents.headD 0
    if width = current then ([], some { here with fresh := false })
    else if current < width then
      ([place .indent], some { here with fresh := false, indents := width :: c.indents })
    else
      let kept := c.indents.dropWhile (width < ·)
      let ended := c.indents.length - kept.length
      if kept.headD 0 = width then
        (List.replicate ended (place .dedent), some { here with fresh := false, indents := kept })
      else
        let length := (c.rest.takeWhile (· != '\n')).length
        ([⟨.fault "IndentationError" "unindent does not match any outer indentation level",
          here.line, length + 1⟩], none)

/-- The tokens at the end of a source. -/
def cutFinish (c : Cutter) (finish : Nat × Nat) : List Token :=
  match c.brackets with
  | (bracket, line, column) :: _ => [⟨.unclosed bracket, line, column⟩]
  | [] => (List.replicate c.indents.length TokenKind.dedent ++ [TokenKind.finish]).map fun kind =>
      ⟨kind, finish.1, finish.2⟩

/-- The digits of a number and what follows them; single underscores may stand between digits.
Without a digit after an underscore, the number of characters up to there. -/
def cutDigits (isDigit : Char → Bool) : List Char → Except Nat (List Char × List Char)
  | [] => .ok ([], [])
  | '_' :: c :: rest =>
    if isDigit c then
      match cutDigits isDigit (c :: rest) with
      | .ok (digits, after) => .ok ('_' :: digits, after)
      | .error count => .error (count + 1)
    else .error 1
  | ['_'] => .error 1
  | c :: rest =>
    if isDigit c then
      match cutDigits isDigit rest with
      | .ok (digits, after) => .ok (c :: digits, after)
      | .error count => .error (count + 1)
    else .ok ([], c :: rest)

/-- The token of a number in a base that the first characters announce. -/
def cutNumberIn (c : Cutter) (base : NumberBase) : List Token × Option Cutter :=
  let fault (message : String) (count : Nat) : List Token × Option Cutter :=
    ([⟨.fault "SyntaxError" message, c.line, c.column + count⟩], none)
  let wrong (count : Nat) : List Token × Option Cutter :=
    match c.rest.drop count with
    | next :: _ =>
      if next.isDigit then
        fault ("invalid digit '" ++ String.singleton next ++ "' in " ++ base.label ++ " literal")
          (count + 1)
      else fault ("invalid " ++ base.label ++ " literal") count
    | [] => fault ("invalid " ++ base.label ++ " literal") count
  let start := base.mark.length
  match cutDigits base.hasDigit (c.rest.drop start) with
  | .error count => wrong (start + count)
  | .ok (digits, after) =>
    let count := start + digits.length
    if digits.isEmpty || (after.head?.map isNarrowNamePart).getD false then wrong count
    else if base = .decimal && digits.head? = some '0' && digits.any (· ∈ "123456789".toList) then
      fault ("leading zeros in decimal integer literals are not permitted; " ++
        "use an 0o prefix for octal integers") 1
    else ([c.token (.number base (String.ofList digits))], some (c.advance count))

/-- The token of a number. -/
def cutNumber (c : Cutter) : List Token × Option Cutter :=
  c.cutNumberIn ((NumberBase.ofStart? c.rest).getD .decimal)

/-- The token of a text literal that starts with some letters before its opening mark. -/
def cutText (c : Cutter) (finish : Nat × Nat) (letters : List Char) : List Token × Option Cutter :=
  let opened := c.rest.drop letters.length
  match opened with
  | [] => ([], none)
  | mark :: inside =>
    let long := inside.take 2 = [mark, mark]
    let width := if long then 3 else 1
    match cutLiteral mark long (opened.drop width) with
    | .error passed =>
      let (what, line) := if long then ("triple-quoted string", finish.1)
        else ("string", c.line + passed)
      ([c.token (.fault "SyntaxError" ("unterminated " ++ what ++ " literal (detected at line " ++
        showNat line ++ ")"))], none)
    | .ok (inside, after) =>
      let lower := letters.map Char.toLower
      let (value, unknown) := if lower.contains 'r' then (inside, none) else unescape inside
      let breaks := inside.count '\n'
      let column := if breaks = 0 then c.column + letters.length + 2 * width + inside.length
        else (inside.reverse.takeWhile (· != '\n')).length + width
      ([c.token (.text (String.ofList value) (lower.contains 'f') unknown)],
        some { c with rest := after, line := c.line + breaks, column })

/-- Whether some letters may stand before the opening mark of a text literal. -/
def isTextLetters (letters : List Char) : Bool :=
  ["r", "u", "f", "rf", "fr"].contains (String.ofList (letters.map Char.toLower))

/-- The token of a name, or of a text literal whose opening mark follows it. -/
def cutName (c : Cutter) (finish : Nat × Nat) : List Token × Option Cutter :=
  let letters := c.rest.takeWhile isNamePart
  let next := (c.rest.drop letters.length).head?
  if isTextLetters letters && (next = some '"' || next = some '\'') then c.cutText finish letters
  else ([c.token (.name (String.ofList letters))], some (c.advance letters.length))

/-- The token of a bracket, which is opened or closed by it. -/
def cutBracket (c : Cutter) (bracket : Char) : List Token × Option Cutter :=
  let token := c.token (.mark (String.singleton bracket))
  let here := c.advance 1
  let fault (message : String) : List Token × Option Cutter :=
    ([c.token (.fault "SyntaxError" message)], none)
  let shown := "'" ++ String.singleton bracket ++ "'"
  if isClosing bracket then
    match c.brackets with
    | [] => fault ("unmatched " ++ shown)
    | (opening, line, _) :: outer =>
      if closing? opening = some bracket then ([token], some { here with brackets := outer })
      else
        fault ("closing parenthesis " ++ shown ++ " does not match opening parenthesis '" ++
          String.singleton opening ++ "'" ++
          (if line = c.line then "" else " on line " ++ showNat line))
  else ([token], some { here with brackets := (bracket, c.line, c.column + 1) :: c.brackets })

/-- The token of a mark. -/
def cutMark (c : Cutter) (first : Char) : List Token × Option Cutter :=
  match longMarks.find? fun mark => (dropStart? mark.toList c.rest).isSome with
  | some mark => ([c.token (.mark mark)], some (c.advance mark.length))
  | none =>
    if (closing? first).isSome || isClosing first then c.cutBracket first
    else if isPrintable first then
      ([c.token (.mark (String.singleton first))], some (c.advance 1))
    else ([c.token (.fault "SyntaxError"
      ("invalid non-printable character " ++ codePointText first))], none)

/-- The next tokens of a source and the cutter after them, if it goes on. At least one character is
passed, or the indentation of a line. -/
def step (c : Cutter) (finish : Nat × Nat) : List Token × Option Cutter :=
  if c.fresh then c.cutIndentation
  else
    match c.rest with
    | [] => (c.cutFinish finish, none)
    | '\n' :: rest =>
      if c.brackets.isEmpty then ([c.token .newline], some (c.nextLine rest true))
      else ([], some (c.nextLine rest false))
    | '\\' :: '\n' :: rest => ([], some (c.nextLine rest false))
    | '#' :: rest => ([], some (c.advance (1 + (rest.takeWhile (· != '\n')).length)))
    | first :: _ =>
      if first = ' ' || first = '\t' || first = '\x0c' then ([], some (c.advance 1))
      else if first.isDigit then c.cutNumber
      else if first = '"' || first = '\'' then c.cutText finish []
      else if isNameStart first then c.cutName finish
      else c.cutMark first

/-- The tokens of what is left of a source, in at most `steps` steps. -/
def cutAll (finish : Nat × Nat) : Nat → Cutter → List Token
  | 0, c => c.cutFinish finish
  | steps + 1, c =>
    match c.step finish with
    | (found, some next) => found ++ cutAll finish steps next
    | (found, none) => found

end Cutter

/-- A source with line feeds as its only line breaks, and one at its end. -/
def settledLines (source : String) : List Char :=
  let chars := normalizeBreaks source.toList
  if chars.isEmpty || chars.getLast? = some '\n' then chars else chars ++ ['\n']

/-- The tokens of a source. Each step passes a character or an indentation, so twice the length is
enough steps. -/
def tokens (source : String) : List Token :=
  let chars := settledLines source
  let lines := splitOn '\n' chars
  let last := (lines.dropLast.getLast?.getD []).length
  Cutter.cutAll (Cutter.finish (lines.length - 1) last) (2 * chars.length + 2) { rest := chars }

end UnitFoundry.Script
