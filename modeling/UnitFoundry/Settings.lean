import UnitFoundry.Disk.TextFile
import UnitFoundry.Options
import UnitFoundry.Yaml.Document

/-!
# Settings

What a compiler is set up from: the entries of a settings file, overridden by environment variables.
The entries may stand in a section of their own. A variable that is empty counts as not set.

* `Settings.ofEntries` — settings from loosely typed entries;
* `overrides` — the entries that the environment gives;
* `Settings.load` — the settings of a file and an environment.
-/

namespace UnitFoundry

open Text

/-- What a compiler is set up from. -/
structure Settings where
  backend : String := "python"
  target : Option TargetVersion := none
  lintRecovery : Bool := false
  warningsAsErrors : Bool := true
  resourcePath : List Path := []
  compileDirectory : Option Path := none
  verbose : Bool := false
  deriving Repr, DecidableEq

namespace Settings

/-- A target version inside settings: a refusal comes from the option set that is tried with it. -/
def asTarget (d : Datum) : Checked TargetVersion :=
  (asText d).andThen fun _ => (asTargetVersion d).under (.field "target_version")

/-- The settings with the given entries; other entries do not count. -/
def ofEntries (entries : List (String × Datum)) : Checked Settings :=
  Settings.mk
    <$> optional entries "backend" "python" asText
    <*> optional entries "target_version" none (orNull asTarget)
    <*> optional entries "lint_recovery" false asFlag
    <*> optional entries "warnings_as_errors" true asFlag
    <*> optional entries "resource_path" [] (asList asPath)
    <*> optional entries "compile_directory" none (orNull asPath)
    <*> optional entries "verbose" false asFlag

/-- The name of the record in messages. -/
def recordName : String := "CompilerSettings"

/-! ## The environment -/

/-- How the names of all variables begin. -/
def variableStart : String := "LIVECOMPILE_"

/-- The variables, by the ends of their names, with the entries they override. -/
def fieldVariables : List (String × String) :=
  [("BACKEND", "backend"), ("TARGET_VERSION", "target_version"), ("LINT_RECOVERY", "lint_recovery"),
   ("WARNINGS_AS_ERRORS", "warnings_as_errors"), ("RESOURCE_PATH", "resource_path"),
   ("COMPILE_DIR", "compile_directory"), ("VERBOSE", "verbose")]

/-- The entry that the value of a variable gives: the resource path is a list of its parts that are
not empty, and all else is text. -/
def variableDatum (field value : String) : Datum :=
  if field = "resource_path" then
    .list (((pieces ':' value).filter (!·.isEmpty)).map .text)
  else .text value

/-- The entries that an environment gives. -/
def overrides (environment : List (String × String)) : List (String × Datum) :=
  fieldVariables.filterMap fun (ending, field) =>
    match lookupEntry (variableStart ++ ending) environment with
    | some value => if value.isEmpty then none else some (field, variableDatum field value)
    | none => none

/-! ## The file -/

/-- The section for the compiler in a document; the document itself if it has none, or if the section
is the document again. -/
def sectionOf (document : Datum) : Datum :=
  match lookupEntry "compiler" document.fields with
  | some found => if Yaml.isMappingAgain found then document else found
  | none => document

/-- The entries of a document, from the section for the compiler if it has one. -/
def entriesOf (path : Path) (document : Datum) : Except Failure (List (String × Datum)) :=
  if document.isEmpty then .ok []
  else
    match document with
    | .mapping _ =>
      match sectionOf document with
      | .mapping entries => .ok (Datum.mapping entries).fields
      | other =>
        .error (.exception "TypeError" (quote other.fullKindName ++ " object is not a mapping"))
    | _ =>
      .error (.exception "ValueError"
        ("Settings file " ++ path.toString ++ " must contain a mapping"))

/-- The entries of a settings file. -/
def readFile (disk : Disk) (path : Path) : Except Failure (List (String × Datum)) :=
  match disk.look path with
  | .error why => .error (.raised why)
  | .ok none => .error (.exception "FileNotFoundError" ("Settings file not found: " ++ path.toString))
  | .ok (some _) => do
    let text ← disk.readText path
    entriesOf path (← (Yaml.readDocument text).mapError .raised)

/-- The settings of an optional file, overridden by an environment. -/
def load (disk : Disk) (path : Option Path) (environment : List (String × String)) :
    Except Failure Settings := do
  let entries ← match path with
    | some path => readFile disk path
    | none => pure []
  (ofEntries (mergeEntries entries (overrides environment))).orFail recordName

end Settings

end UnitFoundry
