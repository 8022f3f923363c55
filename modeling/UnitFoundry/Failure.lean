import UnitFoundry.Diagnostic
import UnitFoundry.Raised

/-!
# Failures

An operation of the library ends with a value or with a failure. A failure is an error of the
library's own taxonomy, a record whose fields are faulty, or an exception from elsewhere.

* `ErrorKind`, `FoundryError` — the taxonomy;
* `Failure` — all the ways an operation can fail;
* `FoundryError.notWritten`, … — the errors of the library, each with its wording.
-/

namespace UnitFoundry

open UnitFoundry.Text

/-! ## The taxonomy -/

/-- The kinds of errors that the library reports. -/
inductive ErrorKind where
  | general
  /-- No backend is configured, or the configured one cannot be had. -/
  | backendUnavailable
  /-- A backend rejected a source; these are all the diagnostics of the attempt. -/
  | compilation (diagnostics : List Diagnostic)
  /-- A path or name is held neither in memory nor by the resource path. -/
  | resourceNotFound (resource : String)
  /-- A backend reported success without an artifact. -/
  | internalInvariant
  /-- The bytes of an artifact could not be made a module. -/
  | artifactLoad
  /-- An artifact was written twice, or read before it was written. -/
  | artifactState
  deriving Repr

namespace ErrorKind

/-- The name of a kind of error. -/
def label : ErrorKind → String
  | general => "CompilerError"
  | backendUnavailable => "BackendUnavailableError"
  | compilation _ => "CompilationError"
  | resourceNotFound _ => "ResourceNotFoundError"
  | internalInvariant => "InternalInvariantError"
  | artifactLoad => "ArtifactLoadError"
  | artifactState => "ArtifactStateError"

/-- The names of a kind and of the kinds it belongs to, the most general last. -/
def lineage : ErrorKind → List String
  | general => [general.label]
  | kind => [kind.label, general.label]

end ErrorKind

/-- An error that the library reports. -/
structure FoundryError where
  kind : ErrorKind
  message : String
  /-- The versioned name of the unit concerned. -/
  unit : Option String := none
  /-- The kind of the failure that this error wraps. -/
  cause : Option String := none
  deriving Repr

namespace FoundryError

/-- The diagnostics an error carries. -/
def diagnostics (e : FoundryError) : List Diagnostic :=
  match e.kind with
  | .compilation found => found
  | _ => []

/-- The diagnostics of an error that are errors themselves. -/
def errors (e : FoundryError) : List Diagnostic := e.diagnostics.filter Diagnostic.isError

/-- Whether any diagnostic of an error has the given category. -/
def hasCategory (e : FoundryError) (category : String) : Bool :=
  e.diagnostics.any (Diagnostic.hasCategory category)

/-- An error as a constructor applied to its message and unit. -/
def toText (e : FoundryError) : String :=
  e.kind.label ++ "(" ++ quote e.message ++
    (match e.unit with
      | some unit => ", unit=" ++ quote unit
      | none => "") ++ ")"

end FoundryError

/-! ## Failures -/

/-- The ways an operation can fail. -/
inductive Failure where
  | error (e : FoundryError)
  /-- The fields of a record are faulty. -/
  | invalid (record : String) (faults : List Fault)
  | raised (r : Raised)
  /-- The exception object with a number, on its way through scripts; its wording is not settled. -/
  | thrown (kind : String) (object : Nat)
  deriving Repr

namespace Failure

/-- The name of the kind of a failure. -/
def label : Failure → String
  | error e => e.kind.label
  | invalid _ _ => "ValidationError"
  | raised r => r.kind
  | thrown kind _ => kind

/-- The wording of a failure. -/
def message : Failure → String
  | error e => e.message
  | invalid record faults => describeFaults record faults
  | raised r => r.message
  | thrown _ _ => ""

/-- Whether a failure can be handled, and is no way of leaving the program. -/
def isOrdinary : Failure → Bool
  | raised r => r.isOrdinary
  | thrown kind _ => !leavingKinds.contains kind
  | _ => true

/-- Whether a failure is of a kind of exceptions or of one that descends from it. -/
def isKindOf (ancestor : String) : Failure → Bool
  | error _ => isKind "Exception" ancestor
  | invalid _ _ => isKind "ValidationError" ancestor
  | raised r => isKind r.kind ancestor
  | thrown kind _ => isKind kind ancestor

/-- An exception with a message. -/
def exception (kind message : String) : Failure := .raised { kind, message }

end Failure

/-- A checked value of a record, its faults as a failure. -/
def Checked.orFail (record : String) : Checked α → Except Failure α
  | .ok x => .ok x
  | .faulty found => .error (.invalid record found)

/-! ## The errors and their wording -/

namespace FoundryError

/-- An artifact is read before it was written. -/
def notWritten (name : String) : FoundryError :=
  { kind := .artifactState, message := "Artifact " ++ name ++ " has not been written yet", unit := name }

/-- An artifact is opened for writing a second time. -/
def alreadyWritten (name : String) : FoundryError :=
  { kind := .artifactState, message := "Artifact " ++ name ++ " was already written", unit := name }

/-- A source file is opened for writing. -/
def readOnly (uri : String) : FoundryError :=
  { kind := .artifactState, message := uri ++ " is a source file and read-only" }

/-- The text of a file without source text is asked for. -/
def noSourceText (uri name : String) : FoundryError :=
  { kind := .artifactState, message := uri ++ " has no source text", unit := name }

/-- A backend asks to write a file that is no artifact. -/
def notAnArtifact (kindLabel name : String) : FoundryError :=
  { kind := .artifactState
    message := "Backend asked to write a " ++ kindLabel ++ " file for " ++ name
    unit := name }

/-- The bytes of an artifact end before its header does. -/
def truncated (name : String) (size : Nat) : FoundryError :=
  { kind := .artifactLoad
    message := "Artifact " ++ name ++ " is truncated (" ++ showNat size ++ " bytes)"
    unit := name }

/-- An artifact has a foreign magic number. -/
def foreignMagic (name : String) : FoundryError :=
  { kind := .artifactLoad
    message := "Artifact " ++ name ++ " was compiled for a different interpreter"
    unit := name }

/-- The payload of an artifact cannot be read. -/
def corrupt (name : String) (why : Raised) : FoundryError :=
  { kind := .artifactLoad
    message := "Artifact " ++ name ++ " is corrupt: " ++ why.message
    unit := name
    cause := why.kind }

/-- The payload of an artifact is no code. -/
def notCode (name : String) : FoundryError :=
  { kind := .artifactLoad
    message := "Artifact " ++ name ++ " does not contain a code object"
    unit := name }

/-- The body of a unit failed. -/
def bodyFailed (name : String) (why : Failure) : FoundryError :=
  { kind := .artifactLoad
    message := "Failed to initialize " ++ name ++ ": " ++ why.label ++ ": " ++ why.message
    unit := name
    cause := why.label }

/-- A file is in no location. -/
def fileNotFound (path location : String) : FoundryError :=
  { kind := .resourceNotFound path
    message := "Resource not found: " ++ path ++ " (" ++ location ++ ")" }

/-- A resource is in no location. -/
def resourceNotFound (name : String) : FoundryError :=
  { kind := .resourceNotFound name, message := "Resource not found: " ++ name }

/-- No unit is published under a name. -/
def unknownUnit (name : String) : FoundryError :=
  { kind := .resourceNotFound name, message := "No compiled unit named " ++ name }

/-- A backend rejected a source. -/
def rejected (name : String) (diagnostics : List Diagnostic) : FoundryError :=
  { kind := .compilation diagnostics
    message := "Compilation failed. unit: " ++ name ++ ", diagnostics: " ++
      quoteList (diagnostics.map Diagnostic.toText)
    unit := name }

/-- A backend reported success, but nothing is published for the unit. -/
def unregistered (name : String) : FoundryError :=
  { kind := .internalInvariant
    message := "Loading context for: " ++ name ++ " is not found"
    unit := name }

end FoundryError

end UnitFoundry
