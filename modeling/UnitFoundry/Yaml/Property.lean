import UnitFoundry.Text.Numeral
import UnitFoundry.Text.Utf8
import UnitFoundry.Yaml.Cursor

/-!
# Names, tags and directives

A node may have a name, by which it is found again, and a tag, which says what it stands for. A tag
is written as an end of a longer one, after the handle that the longer one's beginning has. A
directive gives such handles, or the version of the language.

* `anchorName` — the name after `&` or `*`;
* `Tag`, `tagHere` — tags as they are written;
* `Directive`, `directiveHere` — directives.
-/

namespace UnitFoundry.Yaml

open Text

/-- The name of a node, after the sign that announces it. -/
def anchorName : Reading String := do
  pass 1
  let name ← passWhile isNameChar
  let here ← rest
  let ends := startsBlank here || "?:,]\x7d%@".toList.contains (here.headD ' ') ||
    (here.headD ' ').toNat = 0x60
  if name.isEmpty || !ends then refuse else pure (String.ofList name)

/-! ## Tags -/

/-- A tag: an end after a handle, or the whole of it. -/
structure Tag where
  handle : Option String
  ending : String
  deriving Repr, DecidableEq

/-- Whether a character may stand in a tag, an escape apart. -/
def isTagChar (c : Char) : Bool :=
  c.isAlphanum || "-;/?:@&=+$,_.!~*'()[]".toList.contains c

/-- The bytes of a run of escapes, each a percent sign and two digits. -/
def escapedBytes : Nat → Reading Bytes
  | 0 => pure []
  | steps + 1 => do
    match ← rest with
    | '%' :: a :: b :: _ =>
      if isHex a && isHex b then
        pass 3
        let byte := UInt8.ofNat ((digitsValue? 16 [a, b]).getD 0)
        pure (byte :: (← escapedBytes steps))
      else refuse
    | '%' :: _ => refuse
    | _ => pure []

/-- The characters of a tag from here on. -/
def tagChars : Nat → Reading (List Char)
  | 0 => pure []
  | steps + 1 => do
    let found ← passWhile isTagChar
    if (← next?) = some '%' then
      match decodeUtf8 (← escapedBytes (← stepsLeft)) with
      | .ok s => do pure (found ++ s.toList ++ (← tagChars steps))
      | .error _ => refuse
    else pure found

/-- A tag, or a part of it, that is not empty. Escapes may stand for nothing but characters. -/
def tagText : Reading String := do
  let text ← tagChars (← stepsLeft)
  if text.isEmpty then refuse else pure (String.ofList text)

/-- A handle: an exclamation mark, or a name between two of them. -/
def tagHandle : Reading String := do
  match ← rest with
  | '!' :: ' ' :: _ => do
    pass 1
    pure "!"
  | '!' :: after =>
    let name := after.takeWhile isNameChar
    if (after.drop name.length).head? = some '!' then
      pass (name.length + 2)
      pure ("!" ++ String.ofList name ++ "!")
    else refuse
  | _ => refuse

/-- The tag that begins here. Blanks or a break must follow, but no tab. -/
def tagHere : Reading Tag := do
  let after := (← rest).drop 1
  let tag : Tag ←
    if after.head? = some '<' then do
      pass 2
      let text ← tagText
      if (← next?) != some '>' then refuse
      pass 1
      pure { handle := none, ending := text }
    else if startsBlank after then do
      pass 1
      pure { handle := none, ending := "!" }
    else do
      let word := after.takeWhile fun c => c != '!' && !startsGap [c]
      if (after.drop word.length).head? = some '!' then
        let handle ← tagHandle
        pure { handle := some handle, ending := ← tagText }
      else
        pass 1
        pure { handle := some "!", ending := ← tagText }
  if startsGap (← rest) then pure tag else refuse

/-! ## Directives -/

/-- A line that says something about the document after it. -/
inductive Directive where
  | version (major : Int)
  | handle (name start : String)
  | unknown
  deriving Repr, DecidableEq

/-- A number of the version. -/
def versionNumber : Reading Int := do
  let digits ← passWhile Char.isDigit
  if digits.isEmpty then refuse
  else
    match readWhole 10 (String.ofList digits) with
    | .ok n => pure n
    | .error message => throw { kind := "ValueError", message }

/-- What a directive says after its name. -/
def directiveValue (name : String) : Reading Directive := do
  if name = "YAML" then
    let _ ← passWhile (· = ' ')
    let major ← versionNumber
    if (← next?) != some '.' then refuse
    pass 1
    let _ ← versionNumber
    if startsGap (← rest) then pure (.version major) else refuse
  else if name = "TAG" then
    let _ ← passWhile (· = ' ')
    let handle ← tagHandle
    if (← next?) != some ' ' then refuse
    let _ ← passWhile (· = ' ')
    let start ← tagText
    if startsGap (← rest) then pure (.handle handle start) else refuse
  else
    let _ ← passWhile fun c => !isBreak c
    pure .unknown

/-- The directive that begins here. -/
def directiveHere : Reading Directive := do
  pass 1
  let name ← passWhile isNameChar
  if name.isEmpty || !startsGap (← rest) then refuse
  let directive ← directiveValue (String.ofList name)
  blankLine
  pure directive

end UnitFoundry.Yaml
