import UnitFoundry.Artifact.Format
import UnitFoundry.Backend.Program
import UnitFoundry.Script.Check

/-!
# The standard backend

It compiles scripts. Each source gives one artifact, unless it is rejected or one of its warnings
counts as an error. Imports that lead nowhere are noted and do no harm.

* `warningDiagnostics` — the diagnostics for the warnings about a source;
* `Reader`, `readScript` — how texts are read and checked;
* `compileSource` — one source;
* `reading`, `standard` — the backend, with any reader and with that of scripts.
-/

namespace UnitFoundry

open Text Script

namespace Standard

/-! ## Diagnostics -/

/-- The diagnostic for a rejection. -/
def rejectionDiagnostic (uri : String) (r : Rejection) : Diagnostic :=
  { kind := .error, category := r.category, message := r.message, source := uri
    line := r.place?.map fun place => (place.1 : Int)
    column := r.place?.map fun place => (place.2 : Int) }

/-- The kind of diagnostic for a warning of a category. -/
def warningKind (options : Options) (category : String) : DiagnosticKind :=
  if options.lint.contains category then .mandatoryWarning
  else if options.warningsAsErrors then .error
  else .warning

/-- The diagnostic for a warning. -/
def warningDiagnostic (options : Options) (uri : String) (w : Warning) : Diagnostic :=
  { kind := warningKind options w.category, category := w.category, message := w.message
    source := uri, line := (w.line : Int) }

/-- Warnings without repetitions of those already seen or earlier in the list. -/
def firstWarnings (seen : List Warning) : List Warning → List Warning
  | [] => []
  | w :: rest =>
    if seen.contains w then firstWarnings seen rest else w :: firstWarnings (w :: seen) rest

/-- The diagnostics for the warnings about a source, each once. -/
def warningDiagnostics (options : Options) (uri : String) (found : List Warning) :
    List Diagnostic :=
  (firstWarnings [] found).map (warningDiagnostic options uri)

/-- The diagnostics of a compilation: the rejection first, then the warnings. -/
def compilationDiagnostics (options : Options) (uri : String) (c : Compilation) :
    List Diagnostic :=
  (match c.result with
    | .ok _ => []
    | .error rejection => [rejectionDiagnostic uri rejection]) ++
    warningDiagnostics options uri c.warnings

/-! ## Imports -/

/-- Whether some file of the class path is a unit with the canonical name of a given one. -/
def isUnit (name : String) : Program Bool := do
  let listing : Listing ←
    Program.request (.candidates .classPath (UnitName.package name) FileKind.all false)
  Program.ofExcept (listing.any fun file => UnitName.canonical file.name = UnitName.canonical name)

/-- Whether some file of the class path lies below a package. -/
def isPackage (name : String) : Program Bool := do
  let listing : Listing ← Program.request (.candidates .classPath name FileKind.all true)
  Program.ofExcept (listing.any fun _ => true)

/-- Whether an artifact is found under a name. -/
def isResource (name : String) : Program Bool := do
  let relativeName := UnitName.simple name ++ UnitName.artifactExtension
  let found ← Program.attempt
    (Program.request (.resolve .classPath (UnitName.package name) relativeName))
  match found with
  | .ok _ => pure true
  | .error (.error e) =>
    match e.kind with
    | .resourceNotFound _ => pure false
    | _ => .fail (.error e)
  | .error failure => .fail failure

/-- Whether the first part of a name is a module that is no unit. -/
def isLibrary (name : String) : Bool :=
  match Library.ofName? (UnitName.top name) with
  | some library => library.hasSpec
  | none => false

/-- Whether an imported name leads to something. -/
def isResolvable (name : String) : Program Bool := do
  if ← isUnit name then pure true
  else if ← isPackage name then pure true
  else if ← isResource name then pure true
  else pure (isLibrary name)

/-- The diagnostic for an import that leads nowhere. -/
def unresolvedDiagnostic (uri : String) (line : Nat) (name : String) : Diagnostic :=
  { kind := .note, category := some "ImportWarning"
    message := "unresolved import '" ++ name ++ "'", source := uri, line := (line : Int) }

/-- Imports that lead nowhere are reported. -/
def checkImports (uri : String) : List (Nat × String) → Program Unit
  | [] => pure ()
  | (line, name) :: rest => do
    if !(← isResolvable name) then Program.report (unresolvedDiagnostic uri line name)
    checkImports uri rest

/-! ## Compilation -/

/-- Diagnostics are reported. -/
def reportAll : List Diagnostic → Program Unit
  | [] => pure ()
  | d :: rest => do
    Program.report d
    reportAll rest

/-- How a text is read and checked: by the grammar of a version, and for a level of optimization. -/
abbrev Reader := Option TargetVersion → Optimization → String → Except Raised Compilation

/-- The reader of scripts. -/
def readScript : Reader := fun target optimize text =>
  match ({ target } : Options).featureVersion with
  | .ok version => compile ((version.map (·.2.toNat)).getD currentMinor) optimize text
  | .error message => .ok { result := .error (.unreadable message) }

/-- The artifact of a source. -/
def artifactOf (options : Options) (uri text : String) : Bytes :=
  Artifact.encode { file := uri, optimize := options.optimize, text } (encodeUtf8 text).length 0

/-- The record of an artifact that was emitted. -/
def emittedText (name : String) (size : Nat) : String :=
  "Emitted artifact for '" ++ name ++ "' (" ++ showNat size ++ " bytes)"

/-- A source that was accepted gives an artifact. -/
def emitArtifact (options : Options) (source : File) (text : String) (script : List Statement) :
    Program Bool := do
  checkImports source.uri (importedModules script)
  let data := artifactOf options source.uri text
  Program.emit source.name data (some source)
  let _ ← Program.request (.log .debug .builtin (emittedText source.name data.length))
  pure true

/-- What was found about a source decides whether it gives an artifact. -/
def conclude (options : Options) (source : File) (text : String) (compilation : Compilation) :
    Program Bool :=
  match compilation.result with
  | .error _ => pure false
  | .ok script =>
    if (compilationDiagnostics options source.uri compilation).any Diagnostic.isError then pure false
    else emitArtifact options source text script

/-- One source is compiled; whether it gave an artifact. -/
def compileSource (read : Reader) (options : Options) (source : File) : Program Bool := do
  let text ← Program.ofExcept source.text
  let compilation ← Program.ofExcept
    ((read options.target options.optimize text).mapError Failure.raised)
  reportAll (compilationDiagnostics options source.uri compilation)
  conclude options source text compilation

/-- Sources are compiled one after the other; whether each gave an artifact. -/
def compileAll (read : Reader) (options : Options) : List File → Program Bool
  | [] => pure true
  | source :: rest => do
    let compiled ← compileSource read options source
    let others ← compileAll read options rest
    pure (compiled && others)

end Standard

namespace Backend

/-- The backend that compiles with a reader. -/
def reading (read : Standard.Reader) : Backend :=
  { className := "PythonBackend", label := "python"
    compile := fun _ options sources => Standard.compileAll read options sources }

/-- The backend for scripts. -/
def standard : Backend := reading Standard.readScript

end Backend

end UnitFoundry
