import UnitFoundry.File.Writer
import UnitFoundry.Log
import UnitFoundry.Policy
import UnitFoundry.Registry
import UnitFoundry.ResourcePath
import UnitFoundry.Store

/-!
# The state of a foundry

Everything that units are compiled, published and loaded in. Contexts, modules, objects, writers and
emission scopes are known by number and never taken away; what is reachable decides what matters.

* `Context` — one published generation of a unit: its artifact and, once loaded, its module;
* `UnitModule` — the names that the body of a unit has bound;
* `Event` — what happens to the body of a unit: a run of it begins, or ends in one of three ways;
* `Session` — the whole state;
* `Action` — an operation on the state that may fail; a failure keeps the state reached.
-/

namespace UnitFoundry

open Script Text

/-! ## Parts of the state -/

/-- One generation of a unit. While its body runs it has a module without being ready. -/
structure Context where
  qualified : String
  artifact : File
  module? : Option ModuleId := none
  ready : Bool := false

namespace Context

/-- The name under which all generations of the unit are found. -/
def canonical (c : Context) : String := UnitName.canonical c.qualified

/-- A generation whose artifact nobody has written. -/
def fresh (qualified : String) : Context := { qualified, artifact := File.artifact qualified }

/-- A context as a constructor applied to its name and state. -/
def toText (c : Context) : String :=
  "LoadingContext(" ++ Text.quote c.qualified ++ ", " ++ (if c.ready then "loaded" else "pending") ++
    ")"

end Context

/-- The module of a unit: the context it belongs to and the names bound in it, oldest first. -/
structure UnitModule where
  owner : ContextId
  names : List (String × Value)

namespace UnitModule

/-- The value of a name. -/
def get? (m : UnitModule) (name : String) : Option Value := lookupEntry name m.names

/-- The module of a context before anything of the unit's body has run, given the texts for its name,
its package and its file. -/
def fresh (owner : ContextId) (name package file : Value) : UnitModule :=
  { owner
    names :=
      [("__name__", name), ("__doc__", .none), ("__package__", package),
       ("__loader__", .context owner), ("__spec__", .none), ("__file__", file)] }

end UnitModule

/-- The number of a writer. -/
abbrev WriterId := Nat

/-- The number of an emission scope. -/
abbrev ScopeId := Nat

/-- A writer opened for the artifact of a context, and the scope it was opened through. -/
structure OpenWriter where
  writer : Writer := {}
  context : ContextId
  scope : Option ScopeId := none

/-- Where a copy of every loaded artifact goes. -/
inductive SideStore where
  | absent
  /-- A store in memory. It refuses the saves, counted from zero, for which `refuses` has a failure. -/
  | memory (refuses : Nat → Option Raised) (attempts : Nat) (saved : List (String × Bytes))
  | durable (store : DurableStore)

/-- The ways in which a run of a body ends. -/
inductive Exit where
  | completed
  /-- A failure stopped the body; its context is to be loaded anew. -/
  | failed
  /-- The body asked to leave the program. -/
  | left
  deriving Repr, DecidableEq

/-- How a run of a body that gave this result has ended. -/
def Exit.of : Except Failure Unit → Exit
  | .ok _ => .completed
  | .error failure => if failure.isOrdinary then .failed else .left

/-- A context after a run of its unit's body has ended. -/
def Exit.settle : Exit → Context → Context
  | completed, c => { c with ready := true }
  | failed, c => { c with module? := none }
  | left, c => c

/-- What happens to the body of a unit: it runs in a module of its own. -/
inductive Event where
  | begun (context : ContextId) (module : ModuleId)
  | ended (context : ContextId) (module : ModuleId) (how : Exit)
  deriving Repr, DecidableEq

/-- What a backend remembers between its invocations. -/
inductive Note where
  | invoked (names arguments : List String)
  | seen (text : String)
  | seenAll (texts : List String)
  deriving Repr, DecidableEq

/-- The whole state. -/
structure Session where
  contexts : List Context := []
  registry : Registry := {}
  /-- The files kept in memory by address, in the order in which the addresses were first used. -/
  overlay : List (String × File) := []
  writers : List OpenWriter := []
  /-- The contexts published through each scope, by qualified name. -/
  scopes : List (List (String × ContextId)) := []
  modules : List UnitModule := []
  /-- The runs of bodies, oldest first. No operation reads it: it is what runs leave behind for
  whoever asks how a context came to its state. -/
  history : List Event := []
  /-- The modules in which a name was set from outside of their bodies, oldest first, once for each
  time. No operation reads it. -/
  assigned : List ModuleId := []
  objects : Array Object := #[]
  /-- How many numbers and texts scripts have made. -/
  made : Nat := 0
  disk : Disk := {}
  resources : ResourcePath := {}
  sideStore : SideStore := .absent
  policy : Policy := {}
  /-- Whether diagnostics that are no errors are logged; without it the level decides. -/
  verbose : Option Bool := none
  notes : List Note := []
  level : Severity := .warning
  log : List Record := []

namespace Session

/-- A session in which a run of a body has begun: its context holds the module without being ready. -/
def begun (s : Session) (id : ContextId) (m : ModuleId) : Session :=
  { s with
    contexts := s.contexts.modify id fun c => { c with module? := some m }
    history := s.history ++ [.begun id m] }

/-- A session in which a run of a body has ended. -/
def ended (s : Session) (id : ContextId) (m : ModuleId) (how : Exit) : Session :=
  { s with
    contexts := s.contexts.modify id how.settle
    history := s.history ++ [.ended id m how] }

end Session

/-! ## Operations -/

/-- An operation on the state that may fail. -/
abbrev Action := EStateM Failure Session

namespace Action

/-- An exception of a kind. -/
def exception (kind message : String) : Action α := throw (.exception kind message)

/-- An operation whose failure is a value. -/
def attempt (act : Action α) : Action (Except Failure α) := fun s =>
  match act s with
  | .ok x s => .ok (.ok x) s
  | .error failure s => .ok (.error failure) s

/-- A record in the log, if the level lets it through. -/
def logged (severity : Severity) (channel : Channel) (text : String) : Action Unit :=
  modify fun s => { s with log := record s.level s.log { severity, channel, text } }

/-! ## Contexts and modules -/

/-- The context with a number. -/
def context (id : ContextId) : Action Context := do
  match (← get).contexts[id]? with
  | some c => pure c
  | none => exception "LookupError" "no such context"

/-- The artifact of a context is changed. -/
def changeArtifact (id : ContextId) (change : File → File) : Action Unit :=
  modify fun s => { s with
    contexts := s.contexts.modify id fun c => { c with artifact := change c.artifact } }

/-- A new context, published nowhere. -/
def newContext (qualified : String) : Action ContextId := do
  let s ← get
  set { s with contexts := s.contexts ++ [Context.fresh qualified] }
  pure s.contexts.length

/-- The module with a number. -/
def module (id : ModuleId) : Action UnitModule := do
  match (← get).modules[id]? with
  | some m => pure m
  | none => exception "LookupError" "no such module"

/-- A new module. -/
def newModule (m : UnitModule) : Action ModuleId := do
  let s ← get
  set { s with modules := s.modules ++ [m] }
  pure s.modules.length

/-- A run of a body begins. -/
def beginRun (id : ContextId) (m : ModuleId) : Action Unit := modify fun s => s.begun id m

/-- A run of a body ends. -/
def endRun (id : ContextId) (m : ModuleId) (how : Exit) : Action Unit :=
  modify fun s => s.ended id m how

/-- A name is bound in a module. -/
def bind (id : ModuleId) (name : String) (value : Value) : Action Unit :=
  modify fun s => { s with
    modules := s.modules.modify id fun m => { m with names := setEntry name value m.names } }

/-- A name is set in a module by something else than the body of its unit. -/
def assign (id : ModuleId) (name : String) (value : Value) : Action Unit := do
  bind id name value
  modify fun s => { s with assigned := s.assigned ++ [id] }

/-! ## Objects -/

/-- A new object. -/
def newObject (o : Object) : Action Value := do
  let s ← get
  set { s with objects := s.objects.push o }
  pure (.object s.objects.size)

/-- The object with a number. -/
def object (id : ObjectId) : Action Object := do
  match (← get).objects[id]? with
  | some o => pure o
  | none => exception "LookupError" "no such object"

/-- An object is changed. -/
def changeObject (id : ObjectId) (change : Object → Object) : Action Unit :=
  modify fun s => { s with objects := s.objects.modify id change }

/-- The number of a new copy. -/
def newCopy : Action Copy := do
  let s ← get
  set { s with made := s.made + 1 }
  pure (.fresh s.made)

/-- A text that was made. -/
def newText (text : String) : Action Value := do
  if isTiny text then pure (.text text) else pure (.text text (← newCopy))

/-- A whole number that was made. -/
def newWhole (n : Int) : Action Value := do
  if isSmall n then pure (.whole n) else pure (.whole n (← newCopy))

/-- A new module for a context, before anything of the unit's body has run. -/
def newUnitModule (owner : ContextId) (c : Context) : Action ModuleId := do
  let name ← newText c.qualified
  let package ← newText (UnitName.package c.qualified)
  let file ← newText c.artifact.uri
  newModule (UnitModule.fresh owner name package file)

/-- The object that a value is the number of. -/
def object? : Value → Action (Option Object)
  | .object id => some <$> object id
  | _ => pure none

/-! ## Publication -/

/-- A context becomes the active one of its canonical name; the one before it is given back. -/
def replace (id : ContextId) : Action (Option ContextId) := do
  let c ← context id
  let s ← get
  let before := s.registry.lookup? c.canonical
  set { s with registry := s.registry.replace c.canonical id }
  match before with
  | some old => do
    let previous ← context old
    logged .debug .loading
      ("[registry:replace] " ++ c.canonical ++ ": " ++ previous.qualified ++ " -> " ++ c.qualified)
  | none => logged .debug .loading ("[registry:add] " ++ c.canonical ++ ": " ++ c.qualified)
  pure before

/-- No context is active any more. -/
def clearRegistry : Action Unit := modify fun s => { s with registry := {} }

/-- The active context of a name. -/
def find (name : String) : Action (Option ContextId) := do
  pure ((← get).registry.find? name)

/-- The active context of a canonical name. -/
def lookup (canonical : String) : Action (Option ContextId) := do
  pure ((← get).registry.lookup? canonical)

/-! ## The side store -/

/-- A copy of an artifact goes to the side store. A failure is logged and does no harm, unless it is a way
of leaving the program. -/
def saveCopy (name : String) (data : Bytes) : Action Unit := do
  let s ← get
  let refused (why : Raised) : Action Unit :=
    if why.isOrdinary then
      logged .warning .loading ("Could not save artifact '" ++ name ++ "': " ++ why.message)
    else throw (.raised why)
  match s.sideStore with
  | .absent => pure ()
  | .memory refuses attempts saved =>
    match refuses attempts with
    | some why => do
      set { s with sideStore := .memory refuses (attempts + 1) saved }
      refused why
    | none => set { s with sideStore := .memory refuses (attempts + 1) (saved ++ [(name, data)]) }
  | .durable store =>
    match store.save s.disk name data with
    | (disk, none) => do
      set { s with disk }
      logged .debug .store (store.savedText name)
    | (disk, some why) => do
      set { s with disk }
      refused why

end Action

end UnitFoundry
