import UnitFoundry.Artifact.Format
import UnitFoundry.Script.Check
import UnitFoundry.Script.Run

/-!
# Loading units

The module of a context is made once: its artifact is read, a copy of it goes to the side store, and
its body runs in a new module. The module is there while the body runs, so that units which import
each other find it. If the body fails, the context holds no module again and the next load starts
anew.

* `inRun` — the run of a body;
* `materialize` — the making of a module;
* `loaderWithin`, `callEngine` — loads and calls inside one another;
* `load`, `loadUnit`, `invoke` — the operations from outside.
-/

namespace UnitFoundry

open Script Text

namespace Loader

/-! ## Bodies -/

/-- The body of a unit runs in its module. -/
def runBody (engine : Engine) (m : ModuleId) (code : Code) : Action Unit :=
  match parse currentMinor code.text with
  | (.error fault, _) => Action.exception fault.category fault.message
  | (.ok script, _) => do
    if code.optimize.keepsDocumentation then
      match documentation? script with
      | some text => Action.bind m "__doc__" (Value.written m (.text text))
      | none => pure ()
    let body := if code.optimize.keepsAssertions then script else withoutAssertions script
    let _ ← Run.start { home := m } (executeAll engine body)

/-! ## Modules -/

/-- A body runs in a module. While it does, its context holds the module without being ready. -/
def inRun (id : ContextId) (m : ModuleId) (body : Action Unit) : Action (Except Failure Unit) := do
  Action.beginRun id m
  let result ← Action.attempt body
  Action.endRun id m (.of result)
  pure result

/-- A new module for a context, in which the body of its unit has run. -/
def runUnit (engine : Engine) (id : ContextId) (c : Context) (code : Code) : Action ModuleId := do
  let m ← Action.newUnitModule id c
  match ← inRun id m (runBody engine m code) with
  | .ok _ => do
    Action.logged .debug .loading ("[context:load] " ++ c.qualified)
    pure m
  | .error failure =>
    if failure.isOrdinary then throw (.error (.bodyFailed c.qualified (← worded engine failure)))
    else throw failure

/-- The module of a context, made now if it is not there. -/
def materialize (engine : Engine) (id : ContextId) : Action ModuleId := do
  let c ← Action.context id
  match c.module? with
  | some m => pure m
  | none => do
    let data ← ofExcept c.artifact.bytes
    Action.saveCopy c.canonical data
    let code ← ofExcept (Artifact.decode c.qualified data)
    runUnit engine id c code

/-! ## Nesting -/

/-- How deep calls may be nested in the body of one unit. -/
def callLimit : Nat := 980

/-- Calls nested at most so deep, with a given way of loading. -/
def callEngine (load : ContextId → Action ModuleId) : Nat → Engine
  | 0 => { load, call := fun _ _ => throw tooDeep }
  | depth + 1 => { load, call := Script.call (callEngine load depth) }

/-- Loads nested at most so deep. -/
def loaderWithin : Nat → ContextId → Action ModuleId
  | 0 => fun _ => throw tooDeep
  | depth + 1 => materialize (callEngine (loaderWithin depth) callLimit)

/-- How many failures may be worded inside one another. The wording of a failure calls what the body has
defined, which may load the same unit again. -/
def wordingLimit : Nat := 190

/-- The operations that start bodies, from outside of any body. A load inside another one belongs to a
body that runs or to a failure that is being worded. A context whose body runs has a module, so no more
bodies run inside one another than there are contexts. -/
def engine : Engine :=
  callEngine (fun id s => loaderWithin (s.contexts.length + wordingLimit + 1) id s) callLimit

/-! ## Use from outside -/

/-- An operation whose failures have their wording. -/
def withWording (act : Action α) : Action α := do
  match ← Action.attempt act with
  | .ok x => pure x
  | .error failure => throw (← worded engine failure)

/-- The module of a context. -/
def load (id : ContextId) : Action ModuleId := withWording (engine.load id)

/-- The unit or other module with a full name, as the imports of a context's unit resolve it. -/
def loadUnit (id : ContextId) (name : String) : Action Value :=
  withWording (Import.loadUnit engine.load id name)

/-- What attributes lead to from a value. A type on the way gives way to an object of it. -/
def walk (value : Value) : List String → Action Value
  | [] => pure value
  | part :: rest => do
    let found ← attributeOf engine value part
    let next ← if ← isOfType engine found (.builtinType "type") then engine.call found [] else pure found
    walk next rest

/-- What a dotted path leads to in a module; if it can be called, the result of the call. -/
def invoke (m : ModuleId) (path : String) (arguments : List Value) : Action Value :=
  withWording do
    let target ← walk (.module m) (pieces '.' path)
    if ← isCallable target then engine.call target arguments else pure target

end Loader

end UnitFoundry
