import UnitFoundry.Text.Split

/-!
# Slash-separated paths

A path is absolute or relative and has components. Empty components and `.` leave no trace; `..` is
kept, for only a walk through directories can say where it leads. Exactly two slashes at the start
are kept as two, any other number as one.

* `ofString`, `toString` — reading and writing a path;
* `join` — a path below another, or itself if it is absolute;
* `parent`, `name`, `stem` — the parts of a path around its last component.
-/

namespace UnitFoundry

/-- A path: how many slashes it starts with, none if it is relative, and its components. -/
structure Path where
  slashes : Nat := 0
  parts : List String := []
  deriving Repr, DecidableEq, Inhabited

namespace Path

open UnitFoundry.Text

/-- The path that a text denotes. -/
def ofString (s : String) : Path :=
  let leading := (s.toList.takeWhile (· = '/')).length
  { slashes := if leading = 2 then 2 else min leading 1
    parts := (pieces '/' s).filter fun part => !part.isEmpty && part != "." }

/-- A path as a text; the empty relative path is a dot. -/
def toString (p : Path) : String :=
  if p.slashes = 0 && p.parts.isEmpty then "."
  else String.ofList (List.replicate p.slashes '/') ++ "/".intercalate p.parts

/-- Whether a path starts at the root. -/
def isAbsolute (p : Path) : Bool := p.slashes != 0

/-- The path that `q` denotes when it is read from `p`. -/
def join (p q : Path) : Path :=
  if q.isAbsolute then q else { p with parts := p.parts ++ q.parts }

/-- A path extended by the components of a text. -/
def append (p : Path) (s : String) : Path := p.join (ofString s)

/-- The path without its last component. -/
def parent (p : Path) : Path := { p with parts := p.parts.dropLast }

/-- The last component; empty if there is none. -/
def name (p : Path) : String := p.parts.getLastD ""

/-- The last component without its extension. A dot at the start or the end starts no extension. -/
def stem (p : Path) : String :=
  let (before, after) := cutLast '.' p.name.toList
  if before.isEmpty || after.isEmpty then p.name else String.ofList before

/-- An absolute path without `..`, each of which takes away the component before it. -/
def collapse (p : Path) : Path :=
  { slashes := p.slashes
    parts := p.parts.foldl (fun kept part => if part = ".." then kept.dropLast else kept ++ [part]) [] }

end Path

end UnitFoundry
