import UnitFoundry.Emission
import UnitFoundry.Overlay

/-!
# Backends

A backend turns sources into artifacts. It is a program that asks the foundry for what it needs and
goes on with the answer, be it a value or a failure. What it may ask for is all that it can do.

* `Request`, `Response` — the requests and what answers them;
* `Program` — a program that makes requests;
* `Program.run` — a program run in a session, through an emission scope;
* `Backend` — a program for every option set and every list of sources;
* `Backend.invoke` — one invocation, which gives an `Outcome`.
-/

namespace UnitFoundry

open Text Script

/-! ## Requests -/

/-- What a backend can ask for. -/
inductive Request where
  /-- A diagnostic is reported. -/
  | report (d : Diagnostic)
  /-- Something is remembered for later invocations. -/
  | note (n : Note)
  /-- A writer is opened for the artifact of a name. -/
  | openOutput (location : Location) (name : String) (kind : FileKind) (sibling : Option File)
  | write (id : WriterId) (data : Bytes)
  | close (id : WriterId)
  | candidates (location : Location) (package : String) (kinds : List FileKind) (recurse : Bool)
  | resolve (location : Location) (package relativeName : String)
  /-- The policy for later compilations is changed. -/
  | configure (change : Change)
  | log (severity : Severity) (channel : Channel) (text : String)

/-- What answers a request. -/
def Response : Request → Type
  | .openOutput .. => WriterId
  | .candidates .. => Listing
  | .resolve .. => File
  | _ => Unit

/-! ## Diagnostics in the log -/

/-- Whether diagnostics that are no errors are logged. -/
def showsAll (verbose : Option Bool) (level : Severity) : Bool :=
  verbose.getD (Severity.debug.reaches level)

/-- The record of a diagnostic: errors always, others if asked for. What is asked for although the
level is above `debug` is raised to `info`. -/
def diagnosticRecord? (verbose : Option Bool) (level : Severity) (d : Diagnostic) : Option Record :=
  if d.isError then some { severity := .error, channel := .diagnostics, text := d.toText }
  else if showsAll verbose level then
    some
      { severity := if Severity.debug.reaches level then .debug else .info
        channel := .diagnostics
        text := d.kind.label.map Char.toUpper ++ " " ++ d.toText }
  else none

/-- A diagnostic goes to the log. -/
def logDiagnostic (d : Diagnostic) : Action Unit :=
  modify fun s =>
    match diagnosticRecord? s.verbose s.level d with
    | some r => { s with log := record s.level s.log r }
    | none => s

/-! ## Programs -/

namespace Request

/-- A request is met, writers being opened through a scope and diagnostics going to a listener. -/
def perform (listener : Diagnostic → Action Unit) (scope : ScopeId) :
    (r : Request) → Action (Response r)
  | .report d => listener d
  | .note n => modify fun s => { s with notes := s.notes ++ [n] }
  | .openOutput location name kind sibling =>
    Emission.openOutput (some scope) location name kind sibling
  | .write id data => do
    let _ ← Emission.write id data
  | .close id => Emission.close id
  | .candidates location package kinds recurse =>
    Overlay.candidates location package kinds recurse
  | .resolve location package relativeName => Overlay.resolve location package relativeName
  | .configure change => do
    let s ← get
    let policy ← ofExcept (s.policy.configure change)
    set { s with policy }
  | .log severity channel text => Action.logged severity channel text

/-- The diagnostics that a request reports. -/
def reported : Request → List Diagnostic
  | .report d => [d]
  | _ => []

end Request

/-- A program that makes requests and goes on with the answers. -/
inductive Program (α : Type) where
  | done (result : α)
  | fail (failure : Failure)
  | ask (request : Request) (next : Except Failure (Response request) → Program α)

namespace Program

/-- A program that goes on with the result of another. -/
def bind : Program α → (α → Program β) → Program β
  | .done x, f => f x
  | .fail failure, _ => .fail failure
  | .ask request next, f => .ask request fun answer => bind (next answer) f

instance : Monad Program where
  pure := .done
  bind := bind

/-- A value, or the failure in its place. -/
def ofExcept : Except Failure α → Program α
  | .ok x => .done x
  | .error failure => .fail failure

/-- A single request whose failure ends the program. -/
def request (r : Request) : Program (Response r) := .ask r ofExcept

/-- A program whose failure is a value. -/
def attempt : Program α → Program (Except Failure α)
  | .done x => .done (.ok x)
  | .fail failure => .done (.error failure)
  | .ask request next => .ask request fun answer => attempt (next answer)

/-- A diagnostic is reported. -/
def report (d : Diagnostic) : Program Unit := request (.report d)

/-- Something is remembered. -/
def note (n : Note) : Program Unit := request (.note n)

/-- A program run in a session: its result, and the diagnostics reported after those already found.
A failure of the program is a value, for the diagnostics stay. -/
def run (listener : Diagnostic → Action Unit) (scope : ScopeId) :
    Program α → List Diagnostic → Action (Except Failure α × List Diagnostic)
  | .done x, found => pure (.ok x, found)
  | .fail failure, found => pure (.error failure, found)
  | .ask request next, found => do
    let answer ← Action.attempt (request.perform listener scope)
    run listener scope (next answer) (found ++ request.reported)

/-- An artifact is written in one go. The writer is closed even if the writing fails. -/
def emit (name : String) (data : Bytes) (sibling : Option File) : Program Unit := do
  let id ← request (.openOutput .classOutput name .artifact sibling)
  let written ← attempt (request (.write id data))
  let _ ← request (.close id)
  ofExcept written

end Program

/-- A backend. What it remembers of earlier invocations is given to it. -/
structure Backend where
  /-- The name of what the backend is an instance of. -/
  className : String
  /-- The name the backend calls itself by. -/
  label : String
  compile : List Note → Options → List File → Program Bool

/-- What an invocation of a backend comes to. -/
structure Outcome where
  succeeded : Bool
  /-- The diagnostics reported, in order. -/
  found : List Diagnostic
  /-- The contexts published, by qualified name. -/
  published : List (String × ContextId)

/-- A backend is invoked through a scope of its own. -/
def Backend.invoke (backend : Backend) (listener : Diagnostic → Action Unit) (options : Options)
    (sources : List File) : Action Outcome := do
  let scope ← Emission.openScope
  let notes := (← get).notes
  let (verdict, found) ← (backend.compile notes options sources).run listener scope []
  let succeeded ← ofExcept verdict
  pure { succeeded, found, published := ← Emission.emitted scope }

end UnitFoundry
