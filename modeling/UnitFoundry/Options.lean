import UnitFoundry.Schema
import UnitFoundry.Text.Numeral

/-!
# Compile options

The option set of one compilation. By default every warning fails the unit; categories listed under
`lint` are reported without failing it, and `warningsAsErrors := false` lets every warning pass.

* `TargetVersion`, `readVersion` — the oldest grammar that a source must be written in, and its numbers;
* `Options` — the option set;
* `ofEntries`, `toEntries` — an option set read from loosely typed fields, and written as such;
* `withTarget`, `withLint` — an option set with one part changed;
* `arguments` — an option set as command-line arguments.
-/

namespace UnitFoundry

open UnitFoundry.Text

/-! ## Target versions -/

/-- The digits of the minor number of a text that begins like a version `3.N`. A single line feed at
the end does not count. -/
def minorDigits? (s : List Char) : Option (List Char) :=
  (dropStart? ['3', '.'] s).map fun rest => (dropSuffix? ['\n'] rest).getD rest

/-- The minor number of a version `3.N`: decimal digits of any script after `3.`. -/
def minorVersion? (s : List Char) : Option Nat := (minorDigits? s).bind readDecimal?

/-- The oldest grammar that a source must be written in: a version `3.N`, kept as it was given. -/
structure TargetVersion where
  text : String
  valid : (minorVersion? text.toList).isSome = true
  deriving DecidableEq

namespace TargetVersion

instance : Repr TargetVersion := ⟨fun v _ => v.text⟩

/-- The target version that a text denotes. -/
def ofString? (s : String) : Option TargetVersion :=
  if h : (minorVersion? s.toList).isSome = true then some ⟨s, h⟩ else none

end TargetVersion

/-- The wording for a version that is not two pieces with a dot between them. -/
def versionPiecesRefusal (count : Nat) : String :=
  if count < 2 then "not enough values to unpack (expected 2, got " ++ showNat count ++ ")"
  else "too many values to unpack (expected 2)"

/-- The major and the minor number that a version is written with, or why they cannot be read: a number
may have too many digits. -/
def readVersion (s : String) : Except String (Int × Int) :=
  match pieces '.' s with
  | [major, minor] => do
    let major ← readWhole 10 major
    let minor ← readWhole 10 minor
    return (major, minor)
  | other => .error (versionPiecesRefusal other.length)

/-- The version of the grammar that is in use when no target is given. -/
def currentVersion : String := "3.11"

/-- The wording for a text that is no target version. -/
def targetVersionRefusal (s : String) : String :=
  "target_version must look like '3.N', got " ++ quote s

/-- A target version. -/
def asTargetVersion (d : Datum) : Checked TargetVersion :=
  (asText d).andThen fun s =>
    match TargetVersion.ofString? s with
    | some v => .ok v
    | none => .fail (.refused (targetVersionRefusal s)) d

/-! ## Optimization -/

/-- How much of a source is left out of its code. -/
inductive Optimization where
  /-- What the process was started with, which is nothing left out. -/
  | inherited
  | none
  /-- Without assertions. -/
  | assertions
  /-- Without assertions and documentation. -/
  | documentation
  deriving Repr, DecidableEq, Inhabited

namespace Optimization

/-- The number of a level. -/
def level : Optimization → Int
  | inherited => -1
  | none => 0
  | assertions => 1
  | documentation => 2

/-- The level with a given number. -/
def ofLevel (n : Int) : Optimization :=
  if n < 0 then inherited else if n = 0 then none else if n = 1 then assertions else documentation

/-- Whether assertions are kept. -/
def keepsAssertions : Optimization → Bool
  | inherited | none => true
  | assertions | documentation => false

/-- Whether documentation is kept. -/
def keepsDocumentation : Optimization → Bool
  | documentation => false
  | _ => true

end Optimization

/-! ## Option sets -/

/-- The option set of one compilation. -/
structure Options where
  target : Option TargetVersion := none
  optimize : Optimization := .inherited
  warningsAsErrors : Bool := true
  lint : List String := []
  deriving Repr, DecidableEq, Inhabited

/-- The category of warnings that a failed compilation may be tried again for. -/
def lintRecoverable : String := "SyntaxWarning"

namespace Options

/-- An option set from loosely typed fields; other fields do not count. -/
def ofEntries (entries : List (String × Datum)) : Checked Options :=
  Options.mk
    <$> optional entries "target_version" none (orNull asTargetVersion)
    <*> optional entries "optimize" .inherited (fun d =>
      (asWholeBetween (-1) 2 d).map Optimization.ofLevel)
    <*> optional entries "warnings_as_errors" true asFlag
    <*> optional entries "lint" [] (asTuple asText)

/-- An option set as loosely typed fields. -/
def toEntries (o : Options) : List (String × Datum) :=
  [("target_version", match o.target with
      | some v => .text v.text
      | none => .null),
    ("optimize", .whole o.optimize.level),
    ("warnings_as_errors", .bool o.warningsAsErrors),
    ("lint", .tuple (o.lint.map .text))]

/-- An option set with another target version, if the datum denotes one; null denotes none. The whole set
is written as fields and checked anew. -/
def withTarget (o : Options) (version : Datum) : Checked Options :=
  ofEntries (setEntry "target_version" version o.toEntries)

/-- The items of a list without later repetitions, after items already kept. -/
def keepFirst (kept : List String) : List String → List String
  | [] => kept
  | item :: rest => if kept.contains item then keepFirst kept rest else keepFirst (kept ++ [item]) rest

/-- An option set with more lint categories, each kept once. -/
def withLint (o : Options) (categories : List String) : Options :=
  { o with lint := keepFirst [] (o.lint ++ categories) }

/-- The grammar version that a source must be written in, major and minor, or why it cannot be read. -/
def featureVersion (o : Options) : Except String (Option (Int × Int)) :=
  match o.target with
  | none => .ok none
  | some v => (readVersion v.text).map some

/-- An option set as command-line arguments. -/
def arguments (o : Options) : List String :=
  (match o.target with
    | some v => if v.text.isEmpty then [] else ["--target", v.text]
    | none => []) ++
  (if o.optimize = .inherited then [] else ["-O" ++ showInt o.optimize.level]) ++
  (if o.warningsAsErrors then ["-Werror"] else []) ++
  o.lint.map fun category => "-Xlint:" ++ category

end Options

end UnitFoundry
