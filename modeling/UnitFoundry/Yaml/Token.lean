import UnitFoundry.Yaml.Property
import UnitFoundry.Yaml.Quoted
import UnitFoundry.Yaml.Unquoted

/-!
# Tokens

A document is read as tokens. Some are not written: a block begins where a line is indented more,
and ends where one is indented less; and what precedes a colon is a key, which is known only when
the colon is found. So tokens are read ahead as long as the next one may turn out to begin a key. A
key stands on one line and is no longer than 1024 characters.

* `Token` — the tokens;
* `Scan`, `Scanning` — what has been read so far;
* `peek`, `take` — the next token, looked at or taken.
-/

namespace UnitFoundry.Yaml

/-- A token of a document. -/
inductive Token where
  | directive (content : Directive)
  | documentStart
  | documentEnd
  | streamEnd
  | blockSequence
  | blockMapping
  | blockEnd
  | flowSequence
  | flowSequenceEnd
  | flowMapping
  | flowMappingEnd
  | dash
  | comma
  | key
  | value
  | reference (name : String)
  | anchor (name : String)
  | tag (content : Tag)
  | scalar (spelling : Spelling) (plain : Bool)
  deriving Repr, DecidableEq

/-- A token that may turn out to begin a key. -/
structure Candidate where
  /-- How many tokens precede it. -/
  number : Nat
  /-- Whether nothing but a key may stand there. -/
  required : Bool
  line : Nat
  column : Nat
  index : Nat

/-- What has been read of a document. -/
structure Scan where
  cursor : Cursor
  /-- The tokens that have been read and not taken. -/
  queue : List Token := []
  taken : Nat := 0
  finished : Bool := false
  /-- The columns of the blocks around the place, the innermost first. -/
  columns : List Nat := []
  /-- How many flow collections are open. -/
  depth : Int := 0
  mayBeginKey : Bool := true
  /-- For every depth the token that may begin a key. -/
  candidates : List (Int × Candidate) := []

/-- A reader of tokens that may fail. -/
abbrev Scanning := EStateM Raised Scan

/-- A reader of characters among readers of tokens. -/
def reading (read : Reading α) : Scanning α := fun s =>
  match read.run s.cursor with
  | .ok x cursor => .ok x { s with cursor }
  | .error raised cursor => .error raised { s with cursor }

/-! ## Blocks -/

namespace Scan

/-- Whether the place is in a flow collection. -/
def inFlow (s : Scan) : Bool := s.depth != 0

/-- The tokens of what has been read, one more at the end. -/
def push (s : Scan) (token : Token) : Scan := { s with queue := s.queue ++ [token] }

/-- The blocks that are indented more than `least` columns end. -/
def unwind (s : Scan) (least : Nat) : Scan :=
  if s.inFlow then s
  else
    let ended := s.columns.takeWhile fun column => least < column + 1
    { s with
      columns := s.columns.drop ended.length
      queue := s.queue ++ ended.map fun _ => .blockEnd }

/-- Whether a block at a column is inside of the innermost one so far. -/
def isDeeper (s : Scan) (column : Nat) : Bool :=
  match s.columns with
  | [] => true
  | innermost :: _ => innermost < column

/-- A block begins at a column, if that is inside of the innermost one; the token for it is put
`before` so many tokens that have been read. -/
def indent (s : Scan) (token : Token) (column : Nat) (place : Nat) : Scan :=
  if s.isDeeper column then
    { s with
      columns := column :: s.columns
      queue := s.queue.take place ++ token :: s.queue.drop place }
  else s

end Scan

/-! ## Keys to be -/

/-- Candidates that can be no keys any more are dropped. -/
def dropStale : Scanning Unit := do
  let s ← get
  let isStale (candidate : Candidate) : Bool :=
    candidate.line != s.cursor.line || 1024 < s.cursor.index - candidate.index
  if s.candidates.any fun (_, candidate) => candidate.required && isStale candidate then throw unreadable
  set { s with candidates := s.candidates.filter fun (_, candidate) => !isStale candidate }

/-- The candidate of the present depth is dropped. -/
def dropCandidate : Scanning Unit := do
  let s ← get
  if s.candidates.any fun (depth, candidate) => depth = s.depth && candidate.required then
    throw unreadable
  set { s with candidates := s.candidates.filter fun (depth, _) => depth != s.depth }

/-- The token that begins here may begin a key. -/
def addCandidate : Scanning Unit := do
  let s ← get
  if s.mayBeginKey then
    dropCandidate
    let candidate : Candidate :=
      { number := s.taken + s.queue.length
        required := !s.inFlow && s.columns.head? = some s.cursor.column
        line := s.cursor.line, column := s.cursor.column, index := s.cursor.index }
    modify fun s => { s with candidates := s.candidates ++ [(s.depth, candidate)] }

/-! ## Single tokens -/

/-- Whether a key may begin after the token that is being read. -/
def allowKey (allowed : Bool) : Scanning Unit := modify fun s => { s with mayBeginKey := allowed }

/-- A token of so many characters. -/
def mark (width : Nat) (token : Token) : Scanning Unit := do
  reading (pass width)
  modify (·.push token)

/-- A token that ends all blocks. -/
def separator (token : Scanning Token) : Scanning Unit := do
  modify (·.unwind 0)
  dropCandidate
  allowKey false
  let token ← token
  modify (·.push token)

/-- A token that may begin a key. -/
def keyPart (token : Scanning Token) : Scanning Unit := do
  addCandidate
  allowKey false
  let token ← token
  modify (·.push token)

/-- The opening bracket of a flow collection. -/
def openFlow (token : Token) : Scanning Unit := do
  addCandidate
  modify fun s => { s with depth := s.depth + 1 }
  allowKey true
  mark 1 token

/-- The closing bracket of a flow collection. -/
def closeFlow (token : Token) : Scanning Unit := do
  dropCandidate
  modify fun s => { s with depth := s.depth - 1 }
  allowKey false
  mark 1 token

/-- The comma between items of a flow collection. -/
def flowComma : Scanning Unit := do
  allowKey true
  dropCandidate
  mark 1 .comma

/-- A block begins here, unless the innermost one does; in a flow collection none does. -/
def beginBlock (token : Token) : Scanning Unit := do
  let s ← get
  if !s.inFlow then
    if s.mayBeginKey then set (s.indent token s.cursor.column s.queue.length) else throw unreadable

/-- The dash before an item of a block. -/
def blockDash : Scanning Unit := do
  beginBlock .blockSequence
  allowKey true
  dropCandidate
  mark 1 .dash

/-- The question mark before a key. -/
def keyMark : Scanning Unit := do
  beginBlock .blockMapping
  allowKey (!(← get).inFlow)
  dropCandidate
  mark 1 .key

/-- The colon before a value. If there is a candidate it was a key. -/
def valueMark : Scanning Unit := do
  let s ← get
  match s.candidates.find? fun (depth, _) => depth = s.depth with
  | some (_, candidate) => do
    let place := candidate.number - s.taken
    let s := { s with
      candidates := s.candidates.filter fun (depth, _) => depth != s.depth
      queue := s.queue.take place ++ Token.key :: s.queue.drop place
      mayBeginKey := false }
    set (if s.inFlow then s else s.indent .blockMapping candidate.column place)
  | none => do
    beginBlock .blockMapping
    allowKey (!(← get).inFlow)
    dropCandidate
  mark 1 .value

/-- A block scalar. -/
def blockText (fold : Bool) : Scanning Unit := do
  allowKey true
  dropCandidate
  let least := match (← get).columns with
    | [] => 0
    | column :: _ => column + 1
  let text ← reading (blockScalar fold least)
  modify (·.push (.scalar { text } false))

/-- A plain scalar. -/
def plainText : Scanning Unit := do
  addCandidate
  allowKey false
  let s ← get
  let least := match s.columns with
    | [] => 0
    | column :: _ => column + 1
  let (text, ended) ← reading (plainScalar s.inFlow least)
  allowKey ended
  modify (·.push (.scalar { text } true))

/-! ## Reading on -/

/-- Blanks, comments and breaks are passed, in at most so many steps; outside of flow collections a
key may begin after a break. -/
def passGap : Nat → Scanning Unit
  | 0 => pure ()
  | steps + 1 => do
    let _ ← reading (passWhile (· = ' '))
    if (← reading next?) = some '#' then
      let _ ← reading (passWhile fun c => !isBreak c)
    match ← reading lineBreak with
    | [] => pure ()
    | _ => do
      modify fun s => { s with mayBeginKey := s.mayBeginKey || !s.inFlow }
      passGap steps

/-- An order mark at the start of a document is passed. -/
def passOrderMark : Scanning Unit := do
  let c := (← get).cursor
  if c.index = 0 && c.rest.head? = some '\ufeff' then reading (pass 1)

/-- The token that begins with a character, before a text. -/
def readToken (c : Char) (after : List Char) : Scanning Unit := do
  let s ← get
  let here := c :: after
  let lineStart := s.cursor.column = 0
  let inFlow := s.inFlow
  if c = '%' && lineStart then separator (.directive <$> reading directiveHere)
  else if lineStart && isMark "---" here then
    separator (do reading (pass 3); pure .documentStart)
  else if lineStart && isMark "..." here then
    separator (do reading (pass 3); pure .documentEnd)
  else if c = '[' then openFlow .flowSequence
  else if c = '\x7b' then openFlow .flowMapping
  else if c = ']' then closeFlow .flowSequenceEnd
  else if c = '\x7d' then closeFlow .flowMappingEnd
  else if c = ',' then flowComma
  else if c = '-' && startsBlank after then blockDash
  else if c = '?' && (inFlow || startsBlank after) then keyMark
  else if c = ':' && (inFlow || startsBlank after) then valueMark
  else if c = '*' then keyPart (.reference <$> reading anchorName)
  else if c = '&' then keyPart (.anchor <$> reading anchorName)
  else if c = '!' then keyPart (.tag <$> reading tagHere)
  else if c = '|' && !inFlow then blockText false
  else if c = '>' && !inFlow then blockText true
  else if c = '\'' || c = '"' then keyPart ((.scalar · false) <$> reading quotedScalar)
  else if startsPlain inFlow here then plainText
  else throw unreadable

/-- One more token is read, and those that are not written before it. -/
def readOn : Scanning Unit := do
  passOrderMark
  passGap (← reading stepsLeft)
  dropStale
  modify fun s => s.unwind (s.cursor.column + 1)
  match ← reading rest with
  | [] => do
    separator (pure .streamEnd)
    modify fun s => { s with finished := true, candidates := [] }
  | c :: after => readToken c after

/-- Tokens are read until the next one is certain, in at most so many steps. -/
def settle : Nat → Scanning Unit
  | 0 => pure ()
  | steps + 1 => do
    let s ← get
    if s.finished then pure ()
    else if s.queue.isEmpty then
      readOn
      settle steps
    else
      dropStale
      let s ← get
      if s.candidates.any fun (_, candidate) => candidate.number = s.taken then
        readOn
        settle steps

/-- The next token. -/
def peek : Scanning Token := do
  settle ((← reading stepsLeft) + 1)
  pure ((← get).queue.headD .streamEnd)

/-- The next token is taken. -/
def take : Scanning Unit := modify fun s => { s with queue := s.queue.drop 1, taken := s.taken + 1 }

end UnitFoundry.Yaml
