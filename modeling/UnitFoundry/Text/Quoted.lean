import UnitFoundry.Text.Printable
import UnitFoundry.Text.Utf8

/-!
# Quoted text

The quoted form of a text stands between single quotes, or between double quotes when the text has
a single quote and no double one. A backslash, the quote in use and every character that is not
printable is escaped, the last by the shortest of `\xNN`, `\uNNNN` and `\UNNNNNNNN`.

* `quote` — the quoted form;
* `quoteBytes` — the quoted form of bytes, after a letter `b`;
* `quoteList` — the quoted forms of several texts, between square brackets;
* `quoteInWords` — the same as a list in words.
-/

namespace UnitFoundry.Text

/-- A number in lower-case hexadecimal, filled with zeros to at least the given width. -/
def hexPadded (width n : Nat) : List Char :=
  let digits := Nat.toDigits 16 n
  List.replicate (width - digits.length) '0' ++ digits

/-- A character inside a text quoted by `mark`. -/
def quoteChar (mark c : Char) : List Char :=
  if c = mark ∨ c = '\\' then ['\\', c]
  else if c = '\n' then ['\\', 'n']
  else if c = '\r' then ['\\', 'r']
  else if c = '\t' then ['\\', 't']
  else if isPrintable c then [c]
  else if c.toNat < 0x100 then '\\' :: 'x' :: hexPadded 2 c.toNat
  else if c.toNat < 0x10000 then '\\' :: 'u' :: hexPadded 4 c.toNat
  else '\\' :: 'U' :: hexPadded 8 c.toNat

/-- The quote a text is written between: double only if that saves escapes. -/
def quoteMark (s : List Char) : Char :=
  if s.contains '\'' && !s.contains '"' then '"' else '\''

/-- The quoted form of a text. -/
def quote (s : String) : String :=
  let mark := quoteMark s.toList
  String.ofList (mark :: s.toList.flatMap (quoteChar mark) ++ [mark])

/-- A byte inside bytes quoted by `mark`; what is no ASCII character to be seen is escaped. -/
def quoteByte (mark : Char) (b : UInt8) : List Char :=
  if b.toNat < 0x7F then quoteChar mark (Char.ofNat b.toNat)
  else '\\' :: 'x' :: hexPadded 2 b.toNat

/-- The quoted form of bytes. -/
def quoteBytes (data : Bytes) : String :=
  let mark := quoteMark (data.map fun b => Char.ofNat b.toNat)
  String.ofList ('b' :: mark :: data.flatMap (quoteByte mark) ++ [mark])

/-- The quoted forms of several texts, between square brackets. -/
def quoteList (items : List String) : String :=
  "[" ++ ", ".intercalate (items.map quote) ++ "]"

/-- The quoted forms of several texts as a list in words, the last after `and`. -/
def quoteInWords (items : List String) : String :=
  match items.map quote with
  | [] => ""
  | [one] => one
  | [one, two] => one ++ " and " ++ two
  | several => ", ".intercalate several.dropLast ++ ", and " ++ several.getLastD ""

end UnitFoundry.Text
