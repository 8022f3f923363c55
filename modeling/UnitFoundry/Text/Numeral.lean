import UnitFoundry.Text.Binary64
import UnitFoundry.Text.Quoted
import UnitFoundry.Text.Split

/-!
# Numerals

What a text must look like to be read as a number: blanks around it, a sign, digits of any script in
a base or, for a real number, a point and an exponent. A refusal names the text.

* `readWhole` — the whole number that a text spells in a base;
* `readReal` — the real number that a text spells;
* `realOf?` — the same without blanks around it and with ASCII digits only.
-/

namespace UnitFoundry.Text

/-! ## Characters -/

/-- Whether a character beyond ASCII is blank. -/
def isWideBlank (c : Char) : Bool :=
  let n := c.toNat
  n = 0x85 || n = 0xA0 || n = 0x1680 || (0x2000 ≤ n && n ≤ 0x200A) || n = 0x2028 || n = 0x2029 ||
    n = 0x202F || n = 0x205F || n = 0x3000

/-- Whether an ASCII character is blank. -/
def isNarrowBlank (c : Char) : Bool := c = ' ' || (0x9 ≤ c.toNat && c.toNat ≤ 0xD)

/-- A character as it counts in a numeral: digits and blanks of every script become ASCII ones. -/
def plainNumeralChar (c : Char) : Char :=
  if c.toNat < 0x80 then c
  else if isWideBlank c then ' '
  else
    match digitValue? c with
    | some digit => Char.ofNat ('0'.toNat + digit)
    | none => '?'

/-- A text as it counts as a numeral, without the blanks around it. -/
def plainNumeral (s : String) : List Char :=
  let chars := s.toList.map plainNumeralChar
  ((chars.dropWhile isNarrowBlank).reverse.dropWhile isNarrowBlank).reverse

/-- A sign and what follows it. -/
def cutSign : List Char → Bool × List Char
  | '-' :: rest => (true, rest)
  | '+' :: rest => (false, rest)
  | s => (false, s)

/-- The value of a digit of bases up to sixteen. -/
def digitOf? (c : Char) : Option Nat :=
  if c.isDigit then some (c.toNat - '0'.toNat)
  else if 'a' ≤ c && c ≤ 'f' then some (c.toNat - 'a'.toNat + 10)
  else if 'A' ≤ c && c ≤ 'F' then some (c.toNat - 'A'.toNat + 10)
  else none

/-- The number that a non-empty run of digits of a base denotes. -/
def digitsValue? (base : Nat) (digits : List Char) : Option Nat :=
  if digits.isEmpty then none
  else
    digits.foldl (fun value c => do
      let value ← value
      let digit ← digitOf? c
      if digit < base then pure (base * value + digit) else none) (some 0)

/-! ## Whole numbers -/

/-- Digits without the zero and the letter that a base may be announced by. -/
def withoutBaseMark (base : Nat) : List Char → List Char
  | '0' :: letter :: rest =>
    if (base = 2 && (letter = 'b' || letter = 'B')) || (base = 8 && (letter = 'o' || letter = 'O')) ||
        (base = 16 && (letter = 'x' || letter = 'X')) then rest
    else '0' :: letter :: rest
  | s => s

/-- How many digits a text may have to be read in a base that is no power of two. -/
def digitLimit : Nat := 4300

/-- The wording for a text with too many digits. -/
def tooManyDigits (count : Nat) : String :=
  "Exceeds the limit (" ++ showNat digitLimit ++ " digits) for integer string conversion: value has " ++
    showNat count ++ " digits; use sys.set_int_max_str_digits() to increase the limit"

/-- The whole number that a text spells in a base, or why it spells none. -/
def readWhole (base : Nat) (s : String) : Except String Int :=
  let (negative, unsigned) := cutSign (plainNumeral s)
  let digits := withoutBaseMark base unsigned
  if base = 10 && digitLimit < digits.length && digits.all Char.isDigit then
    .error (tooManyDigits digits.length)
  else
    match digitsValue? base digits with
    | some n => .ok (if negative then -(n : Int) else n)
    | none =>
      .error ("invalid literal for int() with base " ++ showNat base ++ ": " ++
        String.ofList ((quote s).toList.take 200))

/-! ## Real numbers -/

/-- The exponent that ends a numeral: a letter `e`, a sign if there is one, and digits. -/
def exponentOf? : List Char → Option Int
  | [] => some 0
  | e :: rest =>
    if e = 'e' || e = 'E' then
      let (negative, digits) := cutSign rest
      (digitsValue? 10 digits).map fun n => if negative then -(n : Int) else n
    else none

/-- The number that a numeral in decimal notation denotes, without its sign. -/
def decimalOf? (negative : Bool) (s : List Char) : Option Binary64 :=
  let whole := s.takeWhile Char.isDigit
  let after := s.drop whole.length
  let (fraction, after) := match after with
    | '.' :: rest => (rest.takeWhile Char.isDigit, rest.dropWhile Char.isDigit)
    | rest => ([], rest)
  do
    let digits ← digitsValue? 10 (whole ++ fraction)
    let exponent ← exponentOf? after
    pure (.ofDecimal negative digits (exponent - fraction.length))

/-- The number that a numeral denotes: a decimal, or a word for infinity or for no number. -/
def realOf? (s : List Char) : Option Binary64 :=
  let (negative, unsigned) := cutSign s
  let word := String.ofList (unsigned.map Char.toLower)
  if word = "inf" || word = "infinity" then some (.infinity negative)
  else if word = "nan" then some .undefined
  else decimalOf? negative unsigned

/-- The wording for a text that spells no real number. -/
def notReal (s : String) : String := "could not convert string to float: " ++ quote s

/-- The real number that a text spells, or why it spells none. -/
def readReal (s : String) : Except String Binary64 :=
  match realOf? (plainNumeral s) with
  | some x => .ok x
  | none => .error (notReal s)

end UnitFoundry.Text
