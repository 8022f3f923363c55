/-!
# Lines of a text

A line ends at any of the characters Unicode treats as a mandatory break, or at a carriage return
with the line feed that follows it. The break itself belongs to no line, and a text that ends with a
break has no empty last line.

* `splitLines` — the lines of a text;
* `normalizeBreaks` — every break by carriage return written as one line feed.
-/

namespace UnitFoundry.Text

/-- The characters at which a line ends. -/
def isLineBreak (c : Char) : Bool :=
  c = '\n' || c = '\r' || c = '\x0b' || c = '\x0c' || c = '\x1c' || c = '\x1d' || c = '\x1e' ||
    c = '\u0085' || c = '\u2028' || c = '\u2029'

/-- The lines of the rest of a text, when the characters of the current line so far are `line`, in
reverse. -/
def linesFrom (line : List Char) : List Char → List (List Char)
  | [] => if line.isEmpty then [] else [line.reverse]
  | '\r' :: '\n' :: rest => line.reverse :: linesFrom [] rest
  | c :: rest => if isLineBreak c then line.reverse :: linesFrom [] rest else linesFrom (c :: line) rest

/-- The lines of a text. -/
def splitLines (s : List Char) : List (List Char) := linesFrom [] s

/-- A text whose breaks by carriage return, alone or before a line feed, are single line feeds. -/
def normalizeBreaks : List Char → List Char
  | [] => []
  | '\r' :: '\n' :: rest => '\n' :: normalizeBreaks rest
  | '\r' :: rest => '\n' :: normalizeBreaks rest
  | c :: rest => c :: normalizeBreaks rest

end UnitFoundry.Text
