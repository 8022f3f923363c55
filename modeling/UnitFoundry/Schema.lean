import UnitFoundry.Datum
import UnitFoundry.Path
import UnitFoundry.Text.Split
import UnitFoundry.Text.Utf8

/-!
# Checking loosely typed data

A field of a record is read by a decoder that either gives a value or names what is wrong and where.
All fields are checked, and the faults come in the order of the fields.

* `Problem`, `Fault` — what can be wrong, and where;
* `Checked` — a value or all the faults found on the way to it; fields are put together by `<*>`;
* `asText`, `asWhole`, `asFlag`, … — the decoders of single fields;
* `required`, `optional` — a field of a mapping;
* `describe` — the wording of the faults of a record.
-/

namespace UnitFoundry

open UnitFoundry.Text

/-! ## Faults -/

/-- What is wrong with a field. -/
inductive Problem where
  | missing
  | textExpected
  | textUnreadable
  | notOneOf (choices : List String)
  | wholeExpected
  | wholeUnreadable
  | wholeTooLong
  | fractionGiven
  | notFinite
  | belowLeast (least : Int)
  | aboveGreatest (greatest : Int)
  | flagExpected
  | flagUnreadable
  | listExpected
  | tupleExpected
  | pathExpected
  /-- A rule of the record itself refuses the value, with a text of its own. -/
  | refused (reason : String)
  deriving Repr, DecidableEq

namespace Problem

/-- The code of a problem. -/
def code : Problem → String
  | missing => "missing"
  | textExpected => "string_type"
  | textUnreadable => "string_unicode"
  | notOneOf _ => "literal_error"
  | wholeExpected => "int_type"
  | wholeUnreadable => "int_parsing"
  | wholeTooLong => "int_parsing_size"
  | fractionGiven => "int_from_float"
  | notFinite => "finite_number"
  | belowLeast _ => "greater_than_equal"
  | aboveGreatest _ => "less_than_equal"
  | flagExpected => "bool_type"
  | flagUnreadable => "bool_parsing"
  | listExpected => "list_type"
  | tupleExpected => "tuple_type"
  | pathExpected => "path_type"
  | refused _ => "value_error"

/-- Choices in quotes, the last after `or`. -/
def showChoices : List String → String
  | [] => ""
  | [one] => quote one
  | [one, two] => quote one ++ " or " ++ quote two
  | one :: rest => quote one ++ ", " ++ showChoices rest

/-- The wording of a problem. -/
def message : Problem → String
  | missing => "Field required"
  | textExpected => "Input should be a valid string"
  | textUnreadable => "Input should be a valid string, unable to parse raw data as a unicode string"
  | notOneOf choices => "Input should be " ++ showChoices choices
  | wholeExpected => "Input should be a valid integer"
  | wholeUnreadable => "Input should be a valid integer, unable to parse string as an integer"
  | wholeTooLong => "Unable to parse input string as an integer, exceeded maximum size"
  | notFinite => "Input should be a finite number"
  | fractionGiven => "Input should be a valid integer, got a number with a fractional part"
  | belowLeast least => "Input should be greater than or equal to " ++ showInt least
  | aboveGreatest greatest => "Input should be less than or equal to " ++ showInt greatest
  | flagExpected => "Input should be a valid boolean"
  | flagUnreadable => "Input should be a valid boolean, unable to interpret input"
  | listExpected => "Input should be a valid list"
  | tupleExpected => "Input should be a valid tuple"
  | pathExpected => "Input is not a valid path"
  | refused reason => "Value error, " ++ reason

end Problem

/-- One step from a record to a part of it. -/
inductive Step where
  | field (name : String)
  | index (n : Nat)
  deriving Repr, DecidableEq

/-- A step as a text. -/
def Step.toText : Step → String
  | field name => name
  | index n => showNat n

/-- A problem, the place of it in a record and the datum found there. -/
structure Fault where
  place : List Step
  problem : Problem
  input : Datum
  deriving Repr

namespace Fault

/-- The text of a datum, its middle left out if it is longer than fifty bytes. -/
def shortened (s : String) : String :=
  if s.utf8ByteSize ≤ 50 then s
  else
    let width (cs : List Char) : Nat := (String.ofList cs).utf8ByteSize
    let head := (List.range 26).foldl (fun best n =>
      let cs := s.toList.take n
      if width cs ≤ 25 then cs else best) []
    let tail := (List.range 25).foldl (fun best n =>
      let cs := s.toList.drop (s.length - n)
      if width cs ≤ 24 then cs else best) []
    String.ofList head ++ "..." ++ String.ofList tail

/-- A fault as two lines of text. -/
def toText (fault : Fault) : String :=
  ".".intercalate (fault.place.map Step.toText) ++ "\n  " ++ fault.problem.message ++
    " [type=" ++ fault.problem.code ++ ", input_value=" ++ shortened fault.input.show ++
    ", input_type=" ++ fault.input.kindName ++ "]"

/-- A fault seen from a record that holds the faulty one in a field. -/
def within (step : Step) (fault : Fault) : Fault := { fault with place := step :: fault.place }

end Fault

/-- The wording of the faults of a record. -/
def describeFaults (record : String) (faults : List Fault) : String :=
  "\n".intercalate ((showNat faults.length ++ " validation error" ++
    (if faults.length = 1 then "" else "s") ++ " for " ++ record) :: faults.map Fault.toText)

/-! ## Checked values -/

/-- A value, or all the faults found on the way to it. -/
inductive Checked (α : Type) where
  | ok (value : α)
  | faulty (faults : List Fault)

namespace Checked

/-- The faults of a checked value. -/
def faults : Checked α → List Fault
  | ok _ => []
  | faulty found => found

/-- A function of a checked value. -/
def map (f : α → β) : Checked α → Checked β
  | ok x => ok (f x)
  | faulty found => faulty found

/-- A function and its argument, both checked; the faults of both are kept. -/
def apply (f : Checked (α → β)) (x : Checked α) : Checked β :=
  match f, x with
  | ok f, ok x => ok (f x)
  | f, x => faulty (f.faults ++ x.faults)

instance : Applicative Checked where
  pure := ok
  map := map
  seq f x := apply f (x ())

/-- A check that needs the value of an earlier one. -/
def andThen (x : Checked α) (f : α → Checked β) : Checked β :=
  match x with
  | ok x => f x
  | faulty found => faulty found

/-- A single fault, at the datum itself. -/
def fail (problem : Problem) (input : Datum) : Checked α := faulty [⟨[], problem, input⟩]

/-- All of several checked values. -/
def all : List (Checked α) → Checked (List α)
  | [] => ok []
  | x :: rest => List.cons <$> x <*> all rest

/-- The faults of a value moved under a step. -/
def under (step : Step) : Checked α → Checked α
  | ok x => ok x
  | faulty found => faulty (found.map (Fault.within step))

end Checked

/-! ## Decoders -/

/-- A text; bytes count as the text that they encode. -/
def asText (d : Datum) : Checked String :=
  match d with
  | .text s => .ok s
  | .bytes data =>
    match decodeUtf8 data with
    | .ok s => .ok s
    | .error _ => .fail .textUnreadable d
  | d => .fail .textExpected d

/-- A value that may be left out by giving nothing. -/
def orNull (decode : Datum → Checked α) : Datum → Checked (Option α)
  | .null => .ok none
  | d => (decode d).map some

/-- The characters that count as blank around a number. -/
def isBlank (c : Char) : Bool :=
  let n := c.toNat
  (0x9 ≤ n && n ≤ 0xD) || n = 0x20 || n = 0x85 || n = 0xA0 || n = 0x1680 ||
    (0x2000 ≤ n && n ≤ 0x200A) || n = 0x2028 || n = 0x2029 || n = 0x202F || n = 0x205F || n = 0x3000

/-- A text without the blanks around it. -/
def trimBlanks (s : List Char) : List Char :=
  ((s.dropWhile isBlank).reverse.dropWhile isBlank).reverse

/-- How long the plain form of a whole number may be. -/
def wholeLimit : Nat := 4300

/-- The whole number that a text denotes in its plain form: digits without a leading zero, after a
minus sign if there is one. -/
def readPlainWhole (s : List Char) : Except Problem Int :=
  let (negative, digits) := match s with
    | '-' :: rest => (true, rest)
    | rest => (false, rest)
  match digits with
  | ['0'] => .ok 0
  | '0' :: _ | [] => .error .wholeUnreadable
  | digits =>
    let run := (digits.takeWhile Char.isDigit).length
    if wholeLimit < run + (if negative then 1 else 0) then .error .wholeTooLong
    else if run < digits.length then .error .wholeUnreadable
    else
      let n : Int := digits.foldl (fun n c => 10 * n + (c.toNat - '0'.toNat)) 0
      .ok (if negative then -n else n)

/-- A text from the first digit on that is no leading zero. Zeros go, and the underscores among
them, up to a further digit or a minus sign; one zero stays before a point or at the end. -/
def dropLeadingZeros (last : Char) : List Char → Option (List Char)
  | [] => some [last]
  | c :: rest =>
    if c = '0' || c = '_' then dropLeadingZeros c rest
    else if c.isDigit || c = '-' then some (c :: rest)
    else if c = '.' then some (last :: c :: rest)
    else none

/-- A text without the zeros that lead it; none if it does not begin like a number. -/
def withoutLeadingZeros : List Char → Option (List Char)
  | '0' :: rest => dropLeadingZeros '0' rest
  | c :: rest => if c.isDigit || c = '-' then some (c :: rest) else none
  | [] => none

/-- A text without a decimal point that only zeros follow, one at least. -/
def dropZeroFraction (s : List Char) : List Char :=
  let (whole, fraction) := cutFirst '.' s
  if !fraction.isEmpty && fraction.all (· = '0') then whole else s

/-- A text without its underscores, if each stands alone and inside of it. -/
def dropUnderscores (s : List Char) : List Char :=
  let groups := splitOn '_' s
  if groups.any List.isEmpty then s else groups.flatten

/-- What is left of a text as a number once blanks around it, a plus sign, leading zeros, a fraction
of zeros and single underscores are gone. -/
def plainWhole? (s : List Char) : Option (List Char) := do
  let unsigned ← match trimBlanks s with
    | '+' :: '-' :: _ => none
    | '+' :: rest => some rest
    | rest => some rest
  pure (dropUnderscores (dropZeroFraction (← withoutLeadingZeros unsigned)))

/-- The whole number that a text denotes. -/
def readWholeText (s : List Char) : Except Problem Int :=
  match readPlainWhole s, plainWhole? s with
  | .error .wholeUnreadable, some plain => readPlainWhole plain
  | result, _ => result

/-- The whole number that a number without fraction equals, within 64 bits. -/
def wholeOfReal (x : Binary64) : Except Problem Int :=
  match x.toRat? with
  | some q =>
    if q.den ≠ 1 then .error .fractionGiven
    else if -(twoTo 63 : Int) < q.num && q.num < (twoTo 63 : Int) then .ok q.num
    else .error .wholeTooLong
  | none => .error .notFinite

/-- A whole number. -/
def asWhole (d : Datum) : Checked Int :=
  match d with
  | .whole n => .ok n
  | .bool b => .ok (if b then 1 else 0)
  | .real x =>
    match wholeOfReal x with
    | .ok n => .ok n
    | .error problem => .fail problem d
  | .text s =>
    match readWholeText s.toList with
    | .ok n => .ok n
    | .error problem => .fail problem d
  | d => .fail .wholeExpected d

/-- A whole number between two bounds, both allowed. -/
def asWholeBetween (least greatest : Int) (d : Datum) : Checked Int :=
  (asWhole d).andThen fun n =>
    if n < least then .fail (.belowLeast least) d
    else if greatest < n then .fail (.aboveGreatest greatest) d
    else .ok n

/-- The words for no. -/
def noWords : List String := ["0", "off", "f", "false", "n", "no"]

/-- The words for yes. -/
def yesWords : List String := ["1", "on", "t", "true", "y", "yes"]

/-- The flag that a word stands for; upper and lower case do not matter. -/
def flagOfWord? (s : String) : Option Bool :=
  let word := s.map Char.toLower
  if noWords.contains word then some false
  else if yesWords.contains word then some true
  else none

/-- The flag that a whole number stands for. -/
def flagOfWhole? (n : Int) : Option Bool :=
  if n = 0 then some false else if n = 1 then some true else none

/-- A flag. A number outside of 64 bits is not even a faulty flag. -/
def asFlag (d : Datum) : Checked Bool :=
  let orUnreadable (flag : Option Bool) : Checked Bool :=
    match flag with
    | some b => .ok b
    | none => .fail .flagUnreadable d
  match d with
  | .bool b => .ok b
  | .text s => orUnreadable (flagOfWord? s)
  | .bytes data =>
    match decodeUtf8 data with
    | .ok s => orUnreadable (flagOfWord? s)
    | .error _ => .fail .flagUnreadable d
  | .whole n =>
    if -(twoTo 63 : Int) ≤ n && n < (twoTo 63 : Int) then orUnreadable (flagOfWhole? n)
    else .fail .flagExpected d
  | .real x =>
    match wholeOfReal x with
    | .ok n => orUnreadable (flagOfWhole? n)
    | .error _ => .fail .flagExpected d
  | d => .fail .flagExpected d

/-- The items of a list, each with its index. -/
def eachItem (decode : Datum → Checked α) (items : List Datum) : Checked (List α) :=
  Checked.all (items.zipIdx.map fun (item, n) => (decode item).under (.index n))

/-- A list whose items are decoded; a set or a tuple counts as one. -/
def asList (decode : Datum → Checked α) : Datum → Checked (List α)
  | .list items | .tuple items | .set items => eachItem decode items
  | d => .fail .listExpected d

/-- A fixed sequence whose items are decoded; a list or a set counts as one. -/
def asTuple (decode : Datum → Checked α) : Datum → Checked (List α)
  | .list items | .tuple items | .set items => eachItem decode items
  | d => .fail .tupleExpected d

/-- A path. -/
def asPath : Datum → Checked Path
  | .text s => .ok (Path.ofString s)
  | d => .fail .pathExpected d

/-! ## Fields -/

/-- A field that must be there. -/
def required (entries : List (String × Datum)) (name : String) (decode : Datum → Checked α) :
    Checked α :=
  match lookupEntry name entries with
  | some d => (decode d).under (.field name)
  | none => .faulty [⟨[.field name], .missing, .record entries⟩]

/-- A field with a value for its absence. -/
def optional (entries : List (String × Datum)) (name : String) (absent : α)
    (decode : Datum → Checked α) : Checked α :=
  match lookupEntry name entries with
  | some d => (decode d).under (.field name)
  | none => .ok absent

end UnitFoundry
