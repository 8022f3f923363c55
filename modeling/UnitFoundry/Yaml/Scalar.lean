import UnitFoundry.Datum
import UnitFoundry.Raised
import UnitFoundry.Text.Casing
import UnitFoundry.Text.Numeral

/-!
# What scalars stand for

A scalar without a tag has the tag that its spelling shows: null, a flag, a number, a date, one of
two signs that have a meaning as keys, or else a text. The value of a scalar is read by the rules of
its tag, which accept more than those spellings.

* `tagOf` — the tag that a spelling shows;
* `readFlag`, `readInteger`, `readReal`, `readBase64?` — values by tag.
-/

namespace UnitFoundry.Yaml

open Text

/-! ## Tags -/

/-- How the tags of the language itself begin. -/
def tagHome : String := "tag:yaml.org,2002:"

/-- The tag of texts. -/
def textTag : String := tagHome ++ "str"

/-- The tag of sequences. -/
def sequenceTag : String := tagHome ++ "seq"

/-- The tag of mappings. -/
def mappingTag : String := tagHome ++ "map"

/-- The tag of keys whose values are further entries. -/
def mergeTag : String := tagHome ++ "merge"

/-- The tag of keys whose values stand for the whole mapping. -/
def valueTag : String := tagHome ++ "value"

/-! ## Spellings -/

/-- The spellings of flags. -/
def flagSpellings : List String :=
  ["yes", "Yes", "YES", "no", "No", "NO", "true", "True", "TRUE", "false", "False", "FALSE",
   "on", "On", "ON", "off", "Off", "OFF"]

/-- The spellings of null. -/
def nullSpellings : List String := ["~", "null", "Null", "NULL", ""]

/-- Whether a text is not empty and each of its characters passes a test. -/
def madeOf (test : Char → Bool) (s : List Char) : Bool := !s.isEmpty && s.all test

/-- Whether a character is a decimal digit or an underscore. -/
def isDigitOrBar (c : Char) : Bool := c.isDigit || c = '_'

/-- Whether a text is decimal digits and underscores and begins with a digit. -/
def isGrouped : List Char → Bool
  | c :: rest => c.isDigit && rest.all isDigitOrBar
  | [] => false

/-- Whether a text is a place of a number in base sixty. -/
def isSixtieth : List Char → Bool
  | [a] => a.isDigit
  | [a, b] => '0' ≤ a && a ≤ '5' && b.isDigit
  | _ => false

/-- Whether a text is places of a number in base sixty, two at least, with a colon between them. -/
def isSexagesimal (s : List Char) : Bool :=
  match splitOn ':' s with
  | first :: second :: places => isGrouped first && (second :: places).all isSixtieth
  | _ => false

/-- Whether a text spells a whole number. -/
def spellsInteger (s : List Char) : Bool :=
  let (_, unsigned) := cutSign s
  match unsigned with
  | ['0'] => true
  | '0' :: 'b' :: rest => madeOf (fun c => c = '0' || c = '1' || c = '_') rest
  | '0' :: 'x' :: rest => madeOf (fun c => isDigitOrBar c || (digitOf? c).isSome) rest
  | '0' :: rest => madeOf (fun c => ('0' ≤ c && c ≤ '7') || c = '_') rest
  | unsigned => isGrouped unsigned || isSexagesimal unsigned

/-- Whether a text is the exponent of a number, which needs a sign, or empty. -/
def isExponent : List Char → Bool
  | [] => true
  | e :: sign :: digits =>
    (e = 'e' || e = 'E') && (sign = '+' || sign = '-') && madeOf Char.isDigit digits
  | _ => false

/-- Whether a text spells a number with a point, infinity, or what is no number. -/
def spellsReal (s : List Char) : Bool :=
  let (_, unsigned) := cutSign s
  let isSigned := unsigned.length < s.length
  let word := String.ofList unsigned
  if [".inf", ".Inf", ".INF"].contains word then true
  else if [".nan", ".NaN", ".NAN"].contains word then !isSigned
  else
    let (whole, fraction) := cutFirst '.' unsigned
    let after := fraction.dropWhile isDigitOrBar
    unsigned.contains '.' &&
      if whole.isEmpty then
        !isSigned && (fraction.head?.map Char.isDigit).getD false && isExponent after
      else (isGrouped whole && isExponent after) || (isSexagesimal whole && after.isEmpty)

/-! ## Moments -/

/-- The parts of a moment as they are written. -/
structure MomentText where
  year : List Char
  month : List Char
  day : List Char
  /-- Hours, minutes, seconds and the digits of a fraction. -/
  time : Option (List Char × List Char × List Char × List Char) := none
  /-- The sign, hours and minutes of a zone; no sign stands for `Z`. -/
  zone : Option (Option Bool × List Char × List Char) := none

/-- Whether a text has a number of digits within bounds. -/
def hasDigits (least greatest : Nat) (s : List Char) : Bool :=
  least ≤ s.length && s.length ≤ greatest && s.all Char.isDigit

/-- A time zone: `Z`, or hours and perhaps minutes after a sign. -/
def readZone? (s : List Char) : Option (Option Bool × List Char × List Char) :=
  match s with
  | ['Z'] => some (none, [], [])
  | sign :: rest =>
    if sign = '+' || sign = '-' then
      match splitOn ':' rest with
      | [hours] => if hasDigits 1 2 hours then some (some (sign = '-'), hours, []) else none
      | [hours, minutes] =>
        if hasDigits 1 2 hours && hasDigits 2 2 minutes then some (some (sign = '-'), hours, minutes)
        else none
      | _ => none
    else none
  | [] => none

/-- A time of day with a fraction and a zone after it, each of which may be missing. -/
def readTime? (date : MomentText) (s : List Char) : Option MomentText :=
  let clock := s.takeWhile fun c => c.isDigit || c = ':'
  let after := s.drop clock.length
  match splitOn ':' clock with
  | [hours, minutes, seconds] =>
    let (fraction, after) := match after with
      | '.' :: rest => (rest.takeWhile Char.isDigit, rest.dropWhile Char.isDigit)
      | rest => ([], rest)
    let zone := after.dropWhile fun c => c = ' ' || c = '\t'
    if hasDigits 1 2 hours && hasDigits 2 2 minutes && hasDigits 2 2 seconds then
      let moment := { date with time := some (hours, minutes, seconds, fraction) }
      if after.isEmpty then some moment
      else (readZone? zone).map fun zone => { moment with zone := some zone }
    else none
  | _ => none

/-- A date, or a date and a time of day after the letter `T` or blanks. -/
def readMoment? (s : List Char) : Option MomentText :=
  let date := s.takeWhile fun c => c.isDigit || c = '-'
  let rest := s.drop date.length
  match splitOn '-' date with
  | [year, month, day] =>
    if hasDigits 4 4 year && hasDigits 1 2 month && hasDigits 1 2 day then
      let found : MomentText := { year, month, day }
      match rest with
      | [] => some found
      | c :: time =>
        if c = 'T' || c = 't' then readTime? found time
        else if c = ' ' || c = '\t' then readTime? found (rest.dropWhile fun c => c = ' ' || c = '\t')
        else none
    else none
  | _ => none

/-- Whether a text spells a date or a moment; a date alone needs two digits of month and day. -/
def spellsMoment (s : List Char) : Bool :=
  match readMoment? s with
  | some found => found.time.isSome || s.length = 10
  | none => false

/-! ## The tag of a spelling -/

/-- A text without a line feed at its end. -/
def withoutFinalFeed (s : List Char) : List Char :=
  if s.getLast? = some '\n' && s != ['\n'] then s.dropLast else s

/-- The tag that the spelling of a scalar shows; a line feed at the end does not count. -/
def tagOf (spelling : String) : String :=
  let chars := withoutFinalFeed spelling.toList
  let word := String.ofList chars
  let name :=
    if nullSpellings.contains word then "null"
    else if flagSpellings.contains word then "bool"
    else if spellsReal chars then "float"
    else if spellsInteger chars then "int"
    else if spellsMoment chars then "timestamp"
    else if word = "<<" then "merge"
    else if word = "=" then "value"
    else if ["!", "&", "*"].contains word then "yaml"
    else "str"
  tagHome ++ name

/-! ## Values -/

/-- The failure to read a value. -/
def faultyValue (message : String) : Raised := { kind := "ValueError", message }

/-- A text without underscores and its sign, and whether that is a minus; there must be a character
that is no underscore. -/
def readSign (s : String) : Except Raised (Bool × String) :=
  let chars := s.toList.filter (· != '_')
  if chars.isEmpty then .error { kind := "IndexError", message := "string index out of range" }
  else
    let (negative, unsigned) := cutSign chars
    .ok (negative, String.ofList unsigned)

/-- The flag that a word stands for; upper and lower case do not matter. -/
def readFlag (s : String) : Except Raised Bool :=
  let word := lowerCase s
  if ["yes", "true", "on"].contains word then .ok true
  else if ["no", "false", "off"].contains word then .ok false
  else .error { kind := "KeyError", message := quote word }

/-- The number that a text spells in a base. -/
def readBase (base : Nat) (s : String) : Except Raised Int :=
  (readWhole base s).mapError faultyValue

/-- The whole number that a text stands for: binary, hexadecimal, octal if it begins with zero, with
places of base sixty if it has a colon, or decimal. -/
def readInteger (s : String) : Except Raised Int := do
  let (negative, unsigned) ← readSign s
  let n ← match unsigned.toList with
    | [] => throw { kind := "IndexError", message := "string index out of range" }
    | ['0'] => pure 0
    | '0' :: 'b' :: rest => readBase 2 (String.ofList rest)
    | '0' :: 'x' :: rest => readBase 16 (String.ofList rest)
    | '0' :: _ => readBase 8 unsigned
    | chars =>
      if chars.contains ':' then do
        let places ← (splitOn ':' chars).mapM fun place => readBase 10 (String.ofList place)
        pure (places.foldl (fun n place => 60 * n + place) 0)
      else readBase 10 unsigned
  pure (if negative then -n else n)

/-- The sum of places of base sixty, the last first, each multiplied by a power of sixty. -/
def sumPlaces (base : Nat) (sum : Binary64) : List Binary64 → Except Raised Binary64
  | [] => .ok sum
  | place :: places =>
    let power := Binary64.ofFraction false base 1
    if power.isFinite then sumPlaces (base * 60) (sum.add (place.multiply power)) places
    else .error { kind := "OverflowError", message := "int too large to convert to float" }

/-- The real number that a text stands for: a decimal, infinity, what is no number, or places of base
sixty if it has a colon. -/
def readReal (s : String) : Except Raised Binary64 := do
  let (negative, unsigned) ← readSign (lowerCase s)
  let x ←
    if unsigned = ".inf" then pure (.infinity false)
    else if unsigned = ".nan" then pure .undefined
    else if unsigned.toList.contains ':' then do
      let places ← (splitOn ':' unsigned.toList).mapM fun place =>
        (Text.readReal (String.ofList place)).mapError faultyValue
      sumPlaces 1 (.ofFraction false 0 1) places.reverse
    else (Text.readReal unsigned).mapError faultyValue
  pure (if negative then x.negate else x)

/-! ## Bytes -/

/-- The value of a digit of base sixty-four. -/
def sextet? (c : Char) : Option Nat :=
  if 'A' ≤ c && c ≤ 'Z' then some (c.toNat - 'A'.toNat)
  else if 'a' ≤ c && c ≤ 'z' then some (c.toNat - 'a'.toNat + 26)
  else if c.isDigit then some (c.toNat - '0'.toNat + 52)
  else if c = '+' then some 62
  else if c = '/' then some 63
  else none

/-- The bytes that digits of base sixty-four stand for, after `place` digits of a group of four of
which `left` is still to be used, and `pads` signs of padding. Other characters do not count. -/
def base64From (place left pads : Nat) : List Char → Option Bytes
  | [] => if place = 0 then some [] else none
  | c :: rest =>
    if c = '=' then
      if 2 ≤ place then
        if 4 ≤ place + pads + 1 then some [] else base64From place left (pads + 1) rest
      else base64From place left pads rest
    else
      match sextet? c with
      | none => base64From place left pads rest
      | some n =>
        let byte (value : Nat) : UInt8 := UInt8.ofNat value
        match place with
        | 0 => base64From 1 n 0 rest
        | 1 => (byte (left * 4 + n / 16) :: ·) <$> base64From 2 (n % 16) 0 rest
        | 2 => (byte (left * 16 + n / 4) :: ·) <$> base64From 3 (n % 4) 0 rest
        | _ => (byte (left * 64 + n) :: ·) <$> base64From 0 0 0 rest

/-- The bytes that a text in base sixty-four stands for. -/
def readBase64? (s : String) : Option Bytes :=
  if s.toList.all fun c => c.toNat < 0x80 then base64From 0 0 0 s.toList else none

end UnitFoundry.Yaml
