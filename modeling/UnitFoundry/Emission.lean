import UnitFoundry.Session

/-!
# Emitting artifacts

A backend emits an artifact by opening a writer for a name. The writer belongs to a new context,
which is published when the writer is closed; readers see the generation before it until then. A
writer may be opened through a scope, which remembers what was published through it.

* `openScope`, `emitted` — the scope of one invocation;
* `openOutput`, `write`, `seek`, `close` — the life of a writer.
-/

namespace UnitFoundry.Emission

open Script Text

/-- A scope through which nothing has been published. -/
def openScope : Action ScopeId := do
  let s ← get
  set { s with scopes := s.scopes ++ [[]] }
  pure s.scopes.length

/-- The contexts published through a scope, by qualified name. -/
def emitted (scope : ScopeId) : Action (List (String × ContextId)) := do
  pure ((← get).scopes[scope]?.getD [])

/-- The record of the opening of a writer. -/
def outputText (location : Location) (name : String) (sibling : Option File) : String :=
  "[file-manager:output] " ++ name ++ " (" ++ location.label ++ ")" ++
    (match sibling with
      | some file => " from " ++ file.uri
      | none => "")

/-- A new writer. -/
def newWriter (w : OpenWriter) : Action WriterId := do
  let s ← get
  set { s with writers := s.writers ++ [w] }
  pure s.writers.length

/-- A writer for the artifact of a new context. -/
def openArtifact (scope : Option ScopeId) (location : Location) (name : String)
    (sibling : Option File) : Action WriterId := do
  let context ← Action.newContext name
  Action.logged .debug .files (outputText location name sibling)
  let c ← Action.context context
  let artifact ← ofExcept c.artifact.open
  Action.changeArtifact context fun _ => artifact
  newWriter { context, scope }

/-- A writer for a file of some kind. Only artifacts can be written. -/
def openOutput (scope : Option ScopeId) (location : Location) (name : String) (kind : FileKind)
    (sibling : Option File) : Action WriterId :=
  if kind ≠ .artifact then throw (.error (.notAnArtifact kind.label name))
  else openArtifact scope location name sibling

/-- The writer with a number. -/
def writer (id : WriterId) : Action OpenWriter := do
  match (← get).writers[id]? with
  | some w => pure w
  | none => Action.exception "LookupError" "no such writer"

/-- A writer is changed. -/
def setWriter (id : WriterId) (w : Writer) : Action Unit :=
  modify fun s => { s with writers := s.writers.modify id fun o => { o with writer := w } }

/-- Bytes are written; their number is given back. -/
def write (id : WriterId) (data : Bytes) : Action Nat := do
  let w ← writer id
  setWriter id (← ofExcept (w.writer.write data))
  pure data.length

/-- A writer goes to another position. -/
def seek (id : WriterId) (position : Int) : Action Nat := do
  let w ← writer id
  setWriter id (← ofExcept (w.writer.seek position))
  pure position.toNat

/-- A published context is remembered by the scope it was published through. -/
def remember (scope : Option ScopeId) (name : String) (context : ContextId) : Action Unit :=
  match scope with
  | some scope => modify fun s => { s with
      scopes := s.scopes.modify scope fun found => setEntry name context found }
  | none => pure ()

/-- A writer is closed: its artifact is frozen and its context published. Closing it again does
nothing. -/
def close (id : WriterId) : Action Unit := do
  let w ← writer id
  if w.writer.closed then pure ()
  else do
    let c ← Action.context w.context
    Action.changeArtifact w.context fun artifact => artifact.freeze w.writer.buffer
    setWriter id { w.writer with closed := true }
    let _ ← Action.replace w.context
    remember w.scope c.qualified w.context

/-- A file is written in one go. -/
def emit (scope : Option ScopeId) (name : String) (data : Bytes) (sibling : Option File) :
    Action Unit := do
  let id ← openOutput scope .classOutput name .artifact sibling
  let _ ← write id data
  close id

end UnitFoundry.Emission
