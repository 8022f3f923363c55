import UnitFoundry.Backend.Standard

/-!
# Backends for trials

Backends that show what a foundry does with them: one that records its invocations and leaves the
work to another, one with a fixed outcome, and one that plays through scenes.

* `recording` — records and delegates;
* `fixed` — reports, emits and answers the same every time;
* `scenario` — plays one scene per invocation.
-/

namespace UnitFoundry

open Text

/-- How an emission in a scene ends. -/
inductive Ending where
  | closed
  /-- The writer is never closed. -/
  | dropped
  /-- A failure follows the writing; the writer is closed before it goes on. -/
  | failed (message : String)
  deriving Repr, DecidableEq

/-- What an emission in a scene writes. -/
inductive Emitted where
  | bytes (data : Bytes)
  /-- The artifact of a text; without one, of the source that is compiled. -/
  | artifact (text : Option String)
  deriving Repr, DecidableEq

/-- One thing that a scene does. -/
inductive Deed where
  | report (fields : List (String × Datum))
  | emit (name : Option String) (kind : String) (content : Emitted) (ending : Ending)
  | list (location package : String) (kinds : List String) (recurse : Bool)
  | read (location package relativeName : String)
  | options
  | fail (message : String)
  | answer (result : Bool)

namespace Scenario

/-- The artifact of a text, compiled under the address of a unit. -/
def artifactOf (name text : String) : Bytes :=
  Artifact.encode { file := UnitName.fileUri name UnitName.sourceExtension, optimize := .inherited, text }
    (encodeUtf8 text).length 0

/-- An emission of a scene. -/
def emit (source : File) (name : Option String) (kind : String) (content : Emitted)
    (ending : Ending) : Program Unit := do
  let name := name.getD source.name
  let kind ← Program.ofExcept (FileKind.ofLabel kind)
  let text ← Program.ofExcept source.text
  let data := match content with
    | .bytes data => data
    | .artifact given => artifactOf name (given.getD text)
  let id ← Program.request (.openOutput .classOutput name kind (some source))
  let _ ← Program.request (.write id data)
  match ending with
  | .closed => Program.request (.close id)
  | .dropped => pure ()
  | .failed message => do
    let _ ← Program.request (.close id)
    .fail (.exception "RuntimeError" message)

/-- The deeds of a scene one after the other, up to an answer. -/
def play (options : Options) (source : File) : List Deed → Program Bool
  | [] => pure true
  | .report fields :: rest => do
    let d ← Program.ofExcept ((Diagnostic.ofEntries fields).orFail "Diagnostic")
    Program.report d
    play options source rest
  | .emit name kind content ending :: rest => do
    emit source name kind content ending
    play options source rest
  | .list location package kinds recurse :: rest => do
    let location ← Program.ofExcept (Location.ofLabel location)
    let kinds ← Program.ofExcept (kinds.mapM FileKind.ofLabel)
    let listing : Listing ← Program.request (.candidates location package kinds recurse)
    let files ← Program.ofExcept listing.all
    Program.note (.seenAll (files.map (·.name)))
    play options source rest
  | .read location package relativeName :: rest => do
    let location ← Program.ofExcept (Location.ofLabel location)
    let file : File ← Program.request (.resolve location package relativeName)
    Program.note (.seen file.uri)
    play options source rest
  | .options :: rest => do
    Program.note (.seenAll options.arguments)
    play options source rest
  | .fail message :: _ => .fail (.exception "RuntimeError" message)
  | .answer result :: _ => pure result

/-- The scene of an invocation; the last one is played again and again. -/
def sceneOf (scenes : List (List Deed)) (invocation : Nat) : List Deed :=
  (scenes[invocation]?).getD (scenes.getLastD [])

/-- An artifact emitted for every source. -/
def emitForAll (data : Bytes) : List File → Program Unit
  | [] => pure ()
  | source :: rest => do
    Program.emit source.name data (some source)
    emitForAll data rest

end Scenario

/-- Whether a note is of an invocation. -/
def Note.isInvocation : Note → Bool
  | .invoked .. => true
  | _ => false

namespace Backend

/-- A backend that records its invocations and leaves the work to another. -/
def recording (inner : Backend) : Backend :=
  { className := "RecordingBackend", label := "recording"
    compile := fun notes options sources => do
      Program.note (.invoked (sources.map (·.name)) options.arguments)
      inner.compile notes options sources }

/-- A backend with a fixed outcome. -/
def fixed (result : Bool) (diagnostics : List Diagnostic) (emit : Option Bytes) : Backend :=
  { className := "ScriptedBackend", label := "scripted"
    compile := fun _ options sources => do
      Program.note (.invoked (sources.map (·.name)) options.arguments)
      Standard.reportAll diagnostics
      match emit with
      | some data => Scenario.emitForAll data sources
      | none => pure ()
      pure result }

/-- A backend that plays one scene per invocation. -/
def scenario (scenes : List (List Deed)) : Backend :=
  { className := "ScenarioBackend", label := "scenario"
    compile := fun notes options sources => do
      Program.note (.invoked (sources.map (·.name)) options.arguments)
      match sources with
      | [] => pure true
      | source :: _ =>
        Scenario.play options source
          (Scenario.sceneOf scenes (notes.filter Note.isInvocation).length) }

end Backend

end UnitFoundry
