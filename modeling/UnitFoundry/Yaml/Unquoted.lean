import UnitFoundry.Yaml.Cursor

/-!
# Scalars without quotes

A plain scalar ends where a comment, the mark of an entry or a less indented line begins. A block
scalar has a header and then the lines that are indented; their breaks are kept, or folded.

* `plainScalar` — a plain scalar, and whether a key may begin after it;
* `blockScalar` — a block scalar.
-/

namespace UnitFoundry.Yaml

/-! ## Plain scalars -/

/-- Whether a flow collection goes on with a character after a scalar. -/
def isFlowMark (c : Char) : Bool := c = ',' || c = '[' || c = ']' || c = '\x7b' || c = '\x7d'

/-- Whether a plain scalar may begin with a text. -/
def startsPlain (inFlow : Bool) : List Char → Bool
  | [] => false
  | c :: rest =>
    (!startsBlank [c] && !("-?:,[]\x7b\x7d#&*!|>'\"%@".toList.contains c || c.toNat = 0x60)) ||
      (!startsBlank rest && (c = '-' || (!inFlow && (c = '?' || c = ':'))))

/-- The part of a plain scalar up to the next blank or mark. -/
def plainChunk (inFlow : Bool) : List Char → List Char
  | [] => []
  | c :: rest =>
    let ends := startsBlank [c] ||
      (c = ':' && (startsBlank rest || (inFlow && (rest.head?.map isFlowMark).getD false))) ||
      (inFlow && (isFlowMark c || c = '?'))
    if ends then [] else c :: plainChunk inFlow rest

/-- The breaks of the lines that begin here and hold nothing, with the blanks before the text that
follows; none if a mark that separates documents stands there. -/
def plainLines : Nat → Reading (Option (List Char))
  | 0 => pure (some [])
  | steps + 1 => do
    let _ ← passWhile (· = ' ')
    match ← lineBreak with
    | [] => pure (some [])
    | found =>
      if startsMark (← rest) then pure none
      else do pure ((← plainLines steps).map (found ++ ·))

/-- The blanks and breaks that stand here in a plain scalar, as they count in its text, and whether
there is a break. Nothing means that the scalar ends. -/
def plainBlank : Reading (List Char × Bool) := do
  let spaces ← passWhile (· = ' ')
  match ← lineBreak with
  | [] => pure (spaces, false)
  | first =>
    if startsMark (← rest) then pure ([], true)
    else
      match ← plainLines (← stepsLeft) with
      | some breaks => pure (folded first breaks, true)
      | none => pure ([], true)

/-- The text of a plain scalar after the blanks that precede it, which began a line if `fresh` is
set; also whether the scalar ended with a line. -/
def plainRest (inFlow : Bool) (least : Nat) : Nat → List Char → Bool → Reading (List Char × Bool)
  | 0, _, fresh => pure ([], fresh)
  | steps + 1, blank, fresh => do
    let here ← rest
    let chunk := if here.head? = some '#' then [] else plainChunk inFlow here
    if chunk.isEmpty then pure ([], fresh)
    else
      pass chunk.length
      let (next, fresh) ← plainBlank
      let here ← get
      if next.isEmpty || here.rest.head? = some '#' || (!inFlow && here.column < least) then
        pure (blank ++ chunk, fresh)
      else
        let (more, fresh) ← plainRest inFlow least steps next fresh
        pure (blank ++ chunk ++ more, fresh)

/-- A plain scalar whose further lines are indented by `least` at least, and whether it ended with a
line, so that a key may begin after it. -/
def plainScalar (inFlow : Bool) (least : Nat) : Reading (String × Bool) := do
  let (text, fresh) ← plainRest inFlow least (← stepsLeft) [] false
  pure (String.ofList text, fresh)

/-! ## Block scalars -/

/-- What becomes of the breaks at the end of a block scalar. -/
inductive Chomping where
  | clip
  | strip
  | keep
  deriving Repr, DecidableEq

/-- How breaks at the end are treated, if a sign says so. -/
def chomping? : Reading (Option Chomping) := do
  match ← next? with
  | some '+' => do
    pass 1
    pure (some .keep)
  | some '-' => do
    pass 1
    pure (some .strip)
  | _ => pure none

/-- The indentation that a digit gives, which must not be zero. -/
def increment? : Reading (Option Nat) := do
  match ← next? with
  | some c =>
    if c = '0' then refuse
    else if c.isDigit then
      pass 1
      pure (some (c.toNat - '0'.toNat))
    else pure none
  | none => pure none

/-- The header of a block scalar after its first character, up to the end of the line. -/
def blockHeader : Reading (Chomping × Option Nat) := do
  let before ← chomping?
  let increment ← increment?
  let after ← match before, increment with
    | none, some _ => chomping?
    | _, _ => pure none
  if !startsGap (← rest) then refuse
  blankLine
  pure ((before.or after).getD .clip, increment)

/-- The breaks of the lines here that hold nothing, with blanks passed up to a column. -/
def blockBreaks (column : Nat) : Nat → Reading (List Char)
  | 0 => pure []
  | steps + 1 => do
    let c ← get
    let spaces := (c.rest.takeWhile (· = ' ')).length
    pass (min spaces (column - c.column))
    match ← lineBreak with
    | [] => pure []
    | found => do pure (found ++ (← blockBreaks column steps))

/-- The breaks of the lines here that hold nothing but blanks, and the greatest column reached. -/
def blockStart : Nat → Nat → Reading (List Char × Nat)
  | 0, widest => pure ([], widest)
  | steps + 1, widest => do
    let _ ← passWhile (· = ' ')
    let widest := max widest (← get).column
    match ← lineBreak with
    | [] => pure ([], widest)
    | found => do
      let (more, widest) ← blockStart steps widest
      pure (found ++ more, widest)

/-- The text of a block scalar whose lines stand at a column, after the breaks that precede it. -/
def blockLines (fold : Bool) (chomping : Chomping) (column : Nat) :
    Nat → List Char → Reading (List Char)
  | 0, _ => pure []
  | steps + 1, breaks => do
    let c ← get
    if c.column ≠ column || c.rest.isEmpty then
      pure (if chomping = .keep then breaks else [])
    else
      let solid := (c.rest.head?.map fun char => !isWhite char).getD true
      let line ← passWhile fun char => !isBreak char
      let ended ← lineBreak
      let next ← blockBreaks column (← stepsLeft)
      let here ← get
      if here.column = column && !here.rest.isEmpty then
        let joined := if fold && ended = ['\n'] && solid &&
            !((here.rest.head?.map isWhite).getD false) then
            (if next.isEmpty then [' '] else [])
          else ended
        pure (breaks ++ line ++ joined ++ (← blockLines fold chomping column steps next))
      else
        pure (breaks ++ line ++ (if chomping = .strip then [] else ended) ++
          (if chomping = .keep then next else []))

/-- A block scalar, which begins here, in a block indented by `least` at least. -/
def blockScalar (fold : Bool) (least : Nat) : Reading String := do
  pass 1
  let (chomping, increment) ← blockHeader
  let least := max least 1
  let (column, breaks) ← match increment with
    | some n => do
      let column := least + n - 1
      pure (column, ← blockBreaks column (← stepsLeft))
    | none => do
      let (breaks, widest) ← blockStart (← stepsLeft) 0
      pure (max least widest, breaks)
  pure (String.ofList (← blockLines fold chomping column (← stepsLeft) breaks))

end UnitFoundry.Yaml
