import UnitFoundry.Text.Decimal
import UnitFoundry.Text.Split

/-!
# Names of units

A generated unit is compiled under a versioned name such as `templates.Greet_ts1700000000`. Its
generation marker is `_ts` with any number of decimal digits; the canonical name is what is left
when the trailing markers are taken away. All generations of a unit have one canonical name, under
which the newest of them is found.

A single final line feed stands outside the markers: it is kept, and the markers before it go.

* `canonical` — a name without its trailing markers;
* `package`, `simple` — the parts of a dotted name before and after its last dot;
* `toPath`, `ofArtifactPath?` — dotted names as slash-separated paths, and back;
* `fileUri`, `overlayUri` — the addresses of files kept in memory.
-/

namespace UnitFoundry.UnitName

open UnitFoundry.Text

/-- The extension of source files. -/
def sourceExtension : String := ".py"

/-- The extension of artifacts. -/
def artifactExtension : String := ".pyc"

/-- The scheme of the addresses of files kept in memory. -/
def uriScheme : String := "vfs"

/-! ## Generation markers -/

/-- Whether a text consists of generation markers only. Digits may come first when a marker has just
been read. -/
def isMarkersAfter (afterMarker : Bool) : List Char → Bool
  | [] => true
  | '_' :: 't' :: 's' :: rest => isMarkersAfter true rest
  | c :: rest => afterMarker && isDecimal c && isMarkersAfter true rest

/-- Whether a text is a sequence of generation markers. The empty text is one. -/
def isMarkers (s : List Char) : Bool := isMarkersAfter false s

/-- A text without the longest sequence of markers at its end. -/
def stripMarkers : List Char → List Char
  | [] => []
  | c :: rest => if isMarkers (c :: rest) then [] else c :: stripMarkers rest

/-- A text cut before its final line feed, if it ends with one. -/
def cutFinalBreak (s : List Char) : List Char × List Char :=
  match dropSuffix? ['\n'] s with
  | some body => (body, ['\n'])
  | none => (s, [])

/-- A name, as characters, without its trailing markers. -/
def canonicalChars (s : List Char) : List Char :=
  let (body, tail) := cutFinalBreak s
  stripMarkers body ++ tail

/-- A name without its trailing markers. -/
def canonical (name : String) : String := String.ofList (canonicalChars name.toList)

/-! ## Dotted names -/

/-- The part of a dotted name before its last dot; empty if there is none. -/
def package (name : String) : String := String.ofList (cutLast '.' name.toList).1

/-- The part of a dotted name after its last dot. -/
def simple (name : String) : String := String.ofList (cutLast '.' name.toList).2

/-- The part of a dotted name before its first dot. -/
def top (name : String) : String := String.ofList (cutFirst '.' name.toList).1

/-- The path of the file that belongs to a dotted name. -/
def toPath (name extension : String) : String := replaceIn '.' '/' name ++ extension

/-- The dotted name of the unit whose artifact has the given path; none for other files. Slashes at
the start of the path do not count. -/
def ofArtifactPath? (path : String) : Option String :=
  (dropSuffix? artifactExtension.toList path.toList).map fun stem =>
    String.ofList (replaceChar '/' '.' (stem.dropWhile (· = '/')))

/-! ## Files kept in memory -/

/-- A file name whose stem is canonical. A name with neither extension is canonical as a whole. -/
def canonicalFile (relativeName : String) : String :=
  match withoutSuffix? artifactExtension relativeName with
  | some stem => canonical stem ++ artifactExtension
  | none =>
    match withoutSuffix? sourceExtension relativeName with
    | some stem => canonical stem ++ sourceExtension
    | none => canonical relativeName

/-- The address of the file in memory that belongs to a unit. -/
def fileUri (name extension : String) : String :=
  uriScheme ++ ":///" ++ toPath name extension

/-- The address under which the overlay keeps a file: all generations of a file share it. -/
def overlayUri (location package relativeName : String) : String :=
  let directory := replaceIn '.' '/' package
  let parts := if directory.isEmpty then [location, canonicalFile relativeName]
    else [location, directory, canonicalFile relativeName]
  uriScheme ++ ":///" ++ "/".intercalate parts

end UnitFoundry.UnitName
