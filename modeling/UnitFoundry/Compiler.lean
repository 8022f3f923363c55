import UnitFoundry.Backend.Program
import UnitFoundry.Loader
import UnitFoundry.Text.Lines

/-!
# Compiling units

A unit that is published under the very name asked for is served as it is. Otherwise its source is
put into memory, the backend is invoked, and the artifact it published under that name is loaded. If
the policy says so, a rejection for a lint warning is followed by one more attempt with the lint
options.

* `cached`, `invoke`, `settle` — the steps of an attempt;
* `compileOnce` — one attempt;
* `compile` — one attempt or two;
* `loadActive` — the module of a unit that is already published.
-/

namespace UnitFoundry.Compiler

open Script Text UnitFoundry.Action

/-- A number filled with blanks to four places. -/
def lineNumber (n : Nat) : String :=
  let digits := showNat n
  String.ofList (List.replicate (4 - digits.length) ' ') ++ digits

/-- The lines of a source, each with its number. -/
def numberedLines (source : String) : String :=
  "\n".intercalate ((splitLines source.toList).zipIdx.map fun (line, n) =>
    lineNumber (n + 1) ++ ": " ++ String.ofList line)

/-- Whether an error says that an artifact cannot be used. -/
def isUnusable (e : FoundryError) : Bool :=
  match e.kind with
  | .artifactLoad | .artifactState => true
  | _ => false

/-- Whether an error says that a backend rejected a source. -/
def isRejection (e : FoundryError) : Bool :=
  match e.kind with
  | .compilation _ => true
  | _ => false

/-- The record of the beginning of an attempt. -/
def startText (name : String) (options : Options) : String :=
  "[compile:start] " ++ name ++ " " ++ " ".intercalate options.arguments

/-- What a load of the active context of a name comes to: the module, or nothing if the artifact turns
out to be of no use. -/
def served (name : String) : Except Failure ModuleId → Action (Option ModuleId)
  | .ok m => do
    logged .debug .compiler ("[compile:hit] " ++ name)
    pure (some m)
  | .error (.error e) =>
    if isUnusable e then do
      logged .debug .compiler
        ("Cached unit '" ++ name ++ "' is unusable, recompiling: " ++ e.message)
      pure none
    else throw (.error e)
  | .error failure => throw failure

/-- The module of a unit that is active under the very name asked for. -/
def cached (name : String) : Action (Option ModuleId) := do
  match ← lookup (UnitName.canonical name) with
  | none => pure none
  | some id => do
    let c ← context id
    if c.qualified ≠ name then pure none else served name (← attempt (Loader.load id))

/-- The backend is invoked for a unit, whose source is put into memory first. -/
def invoke (backend : Backend) (name source : String) (options : Options) : Action Outcome := do
  let file := File.source name source
  Overlay.putSource .sourcePath (UnitName.package name)
    (UnitName.simple name ++ UnitName.sourceExtension) file
  logged .debug .compiler (startText name options)
  backend.invoke logDiagnostic options [file]

/-- The module of a unit whose backend reported success: that of the context published under the
unit's name, else that of the context that is active for it. -/
def loadPublished (name : String) (published : List (String × ContextId)) : Action ModuleId := do
  let canonical := UnitName.canonical name
  match ← lookup canonical with
  | none => throw (.error (.unregistered name))
  | some active => do
    let chosen := (lookupEntry name published).getD active
    if chosen ≠ active then
      let c ← context active
      logged .debug .compiler
        ("'" ++ canonical ++ "' was replaced by " ++ c.qualified ++ " while compiling " ++ name)
    logged .debug .compiler ("[compile:done] " ++ name)
    Loader.load chosen

/-- What an invocation of the backend comes to: a module if it succeeded, else a rejection with all
that was found. -/
def settle (name source : String) (outcome : Outcome) : Action ModuleId :=
  if outcome.succeeded then loadPublished name outcome.published
  else do
    logged .debug .compiler ("Failed to compile " ++ name ++ ", source:\n" ++ numberedLines source)
    throw (.error (.rejected name outcome.found))

/-- One attempt to compile a unit. -/
def compileOnce (backend : Backend) (name source : String) (options : Options) :
    Action ModuleId := do
  match ← cached name with
  | some m => pure m
  | none => do settle name source (← invoke backend name source options)

/-- Whether an error is followed by one more attempt. -/
def isRetried (policy : Policy) (e : FoundryError) : Bool :=
  isRejection e && policy.lintRecovery && e.hasCategory lintRecoverable

/-- The record of a second attempt. -/
def retryText (name : String) (options : Options) : String :=
  "[compile:retry] " ++ name ++ " with " ++ " ".intercalate options.arguments

/-- The module of a unit, compiled from a source unless it is already there under this name. -/
def compile (backend : Backend) (name source : String) : Action ModuleId := do
  let policy := (← get).policy
  match ← attempt (compileOnce backend name source policy.options) with
  | .ok m => pure m
  | .error (.error e) =>
    if isRetried policy e then do
      logged .info .compiler (retryText name policy.lintOptions)
      compileOnce backend name source policy.lintOptions
    else throw (.error e)
  | .error failure => throw failure

/-- The module of the active unit of a name, which may be versioned or canonical. -/
def loadActive (name : String) : Action ModuleId := do
  match ← find name with
  | some id => Loader.load id
  | none => throw (.error (.unknownUnit name))

/-- The policy is changed. -/
def configure (change : Change) : Action Unit := do
  let s ← get
  let policy ← ofExcept (s.policy.configure change)
  set { s with policy }

/-- The places of the resource path go to the log. -/
def logResourcePath : Action Unit := do
  let rule := "================"
  let places := (← get).resources.texts
  logged .debug .compiler
    ("\n".intercalate (["Runtime compiler resource path:", rule] ++ places ++ [rule]))

end UnitFoundry.Compiler
