/-!
# Cutting and joining text

Texts are cut at single characters, which is all that dotted names and slash-separated paths need.
The functions work on lists of characters; the ones on `String` are thin wrappers.

* `splitOn`, `joinWith` — pieces between separators, and back;
* `cutFirst`, `cutLast` — the two sides of the first or last separator;
* `dropSuffix?`, `dropStart?` — a text without a given end or start.
-/

namespace UnitFoundry.Text

/-- The pieces of a text between occurrences of a separator. There is always at least one. -/
def splitOn (sep : Char) : List Char → List (List Char)
  | [] => [[]]
  | c :: rest =>
    if c = sep then [] :: splitOn sep rest
    else
      match splitOn sep rest with
      | [] => [[c]]
      | piece :: pieces => (c :: piece) :: pieces

/-- Pieces with a separator between neighbours. -/
def joinWith (sep : Char) : List (List Char) → List Char
  | [] => []
  | [piece] => piece
  | piece :: next :: pieces => piece ++ sep :: joinWith sep (next :: pieces)

/-- Every occurrence of one character replaced by another. -/
def replaceChar (old new : Char) (s : List Char) : List Char :=
  s.map fun c => if c = old then new else c

/-- The text before and after the first separator; without one, all of the text and nothing. -/
def cutFirst (sep : Char) : List Char → List Char × List Char
  | [] => ([], [])
  | c :: rest =>
    if c = sep then ([], rest)
    else
      let (before, after) := cutFirst sep rest
      (c :: before, after)

/-- The text before and after the last separator; without one, nothing and all of the text. -/
def cutLast (sep : Char) : List Char → List Char × List Char
  | [] => ([], [])
  | c :: rest =>
    if rest.contains sep then
      let (before, after) := cutLast sep rest
      (c :: before, after)
    else if c = sep then ([], rest)
    else ([], c :: rest)

/-- The rest of a text that begins with `start`. -/
def dropStart? : List Char → List Char → Option (List Char)
  | [], s => some s
  | _ :: _, [] => none
  | c :: start, d :: s => if c = d then dropStart? start s else none

/-- What stands before `suffix` in a text that ends with it. -/
def dropSuffix? (suffix s : List Char) : Option (List Char) :=
  (dropStart? suffix.reverse s.reverse).map List.reverse

/-- The pieces of a string between occurrences of a separator. -/
def pieces (sep : Char) (s : String) : List String :=
  (splitOn sep s.toList).map String.ofList

/-- A string with one character replaced by another. -/
def replaceIn (old new : Char) (s : String) : String :=
  String.ofList (replaceChar old new s.toList)

/-- A string without a given end, if it has it. -/
def withoutSuffix? (suffix s : String) : Option String :=
  (dropSuffix? suffix.toList s.toList).map String.ofList

/-- Whether a string ends with another. -/
def endsWith (s suffix : String) : Bool := (withoutSuffix? suffix s).isSome

/-- Whether a string begins with another. -/
def beginsWith (s start : String) : Bool := (dropStart? start.toList s.toList).isSome

end UnitFoundry.Text
