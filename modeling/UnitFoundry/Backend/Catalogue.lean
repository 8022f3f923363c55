import UnitFoundry.Backend.Scenario

/-!
# Finding a backend

A backend is named by a specification: a built-in name, the name of an entry point, or a module and
an attribute of it with a colon between them. What is found there may be a backend, or something
that makes one without arguments.

* `Offer` — what an attribute of a module has to offer;
* `Catalogue` — the built-in backends, the entry points and the modules;
* `importFailure?` — why a module cannot be imported, if it cannot;
* `Catalogue.find` — the backend of a specification, or why there is none;
* `Catalogue.load` — the same, with a record in the log.
-/

namespace UnitFoundry

open Text

/-- What an attribute of a module has to offer. -/
inductive Offer where
  /-- A backend, or something that makes it. -/
  | backend (b : Backend)
  /-- Something that neither is nor makes a backend. -/
  | other
  /-- No value at all. -/
  | nothing
  /-- Something that cannot be made without arguments. -/
  | failing (why : Failure)

/-- An entry point: a name for an attribute of a module. -/
structure EntryPoint where
  name : String
  place : String
  member : String
  deriving Repr

/-- Where backends are looked for. -/
structure Catalogue where
  builtin : List (String × Backend)
  entryPoints : List EntryPoint
  /-- The modules, each with the attributes it has. -/
  modules : List (String × List (String × Offer))
  /-- The modules that fail when they are imported. -/
  broken : List (String × Failure) := []

/-! ## Errors -/

namespace FoundryError

/-- No backend is to be had. -/
def unavailable (message : String) (cause : Option String := none) : FoundryError :=
  { kind := .backendUnavailable, message, cause }

/-- No backend is configured. -/
def noBackend : FoundryError :=
  unavailable
    "No compilation backend configured. Set 'backend' in the compiler settings, e.g. backend: python"

/-- A specification names nothing. -/
def unknownBackend (spec : String) (available : List String) : FoundryError :=
  unavailable ("Can not find compilation backend '" ++ spec ++ "'. Available: " ++
    quoteList available ++ ". Use a registered name or a 'module:attribute' path.")

/-- What a specification names cannot be found. -/
def brokenPath (spec : String) (why : Failure) : FoundryError :=
  unavailable ("Backend '" ++ spec ++ "' failed to load: " ++ why.message) why.label

/-- What an entry point names cannot be found. -/
def brokenEntryPoint (name : String) (why : Failure) : FoundryError :=
  unavailable ("Backend entry point '" ++ name ++ "' failed to load: " ++ why.message) why.label

/-- What a specification names cannot be made. -/
def unmakeable (spec : String) (why : Failure) : FoundryError :=
  unavailable ("Backend '" ++ spec ++ "' failed to initialize: " ++ why.message) why.label

/-- What a specification names is no backend. -/
def notBackend (spec : String) : FoundryError :=
  unavailable ("Backend '" ++ spec ++
    "' does not implement compile_unit(file_manager, diagnostics, options, sources)")

end FoundryError

namespace Catalogue

/-! ## Looking up -/

/-- The names that can be configured. -/
def available (c : Catalogue) : List String := c.builtin.map (·.1) ++ c.entryPoints.map (·.name)

/-- The name of a module in a package, or of one in none. -/
def nameIn (package part : String) : String := if package.isEmpty then part else package ++ "." ++ part

/-- Why the rest of a module's name cannot be imported after the parts before it have been. -/
def importFailure? (c : Catalogue) (done : String) : List String → Option Failure
  | [] => none
  | part :: rest =>
    match lookupEntry (nameIn done part) c.broken with
    | some why => some why
    | none =>
      if (lookupEntry (nameIn done part) c.modules).isSome then importFailure? c (nameIn done part) rest
      else
        let isPackage := done.isEmpty || c.modules.any fun (other, _) => beginsWith other (done ++ ".")
        some (.exception "ModuleNotFoundError" ("No module named " ++ quote (nameIn done part) ++
          (if isPackage then "" else "; " ++ quote done ++ " is not a package")))

/-- A module's name is empty. -/
def emptyName : Failure := .exception "ValueError" "Empty module name"

/-- A module's name begins with a dot, and there is no package that it could be read in. -/
def relativeName (place : String) : Failure :=
  .exception "TypeError"
    ("the 'package' argument is required to perform a relative import for " ++ quote place)

/-- What an attribute of a module offers. -/
def offer (c : Catalogue) (place member : String) : Except Failure Offer :=
  if place.isEmpty then .error emptyName
  else if beginsWith place "." then .error (relativeName place)
  else
    match c.importFailure? "" (pieces '.' place) with
    | some why => .error why
    | none =>
      match lookupEntry member ((lookupEntry place c.modules).getD []) with
      | some found => .ok found
      | none =>
        .error (.exception "AttributeError"
          ("module " ++ quote place ++ " has no attribute " ++ quote member))

/-- Whether a failure to find an attribute is one that names the specification. -/
def isLookupFailure (f : Failure) : Bool := f.isKindOf "ImportError" || f.isKindOf "AttributeError"

/-- Something that is offered, if it is. -/
def something? : Offer → Option Offer
  | .nothing => none
  | found => some found

/-- What the entry point of a name offers. -/
def ofEntryPoint? (c : Catalogue) (name : String) : Except Failure (Option Offer) :=
  match c.entryPoints.find? (·.name = name) with
  | none => .ok none
  | some entry =>
    match c.offer entry.place entry.member with
    | .ok found => .ok (something? found)
    | .error why => .error (if why.isOrdinary then .error (.brokenEntryPoint name why) else why)

/-- What the attribute of a module offers, the two of which have a colon between them. -/
def ofPath? (c : Catalogue) (spec : String) : Except Failure (Option Offer) :=
  if !spec.toList.contains ':' then .ok none
  else
    let (place, member) := cutFirst ':' spec.toList
    match c.offer (String.ofList place) (String.ofList member) with
    | .ok found => .ok (something? found)
    | .error why => .error (if isLookupFailure why then .error (.brokenPath spec why) else why)

/-- What a specification names: an entry point first, then an attribute of a module. -/
def target (c : Catalogue) (spec : String) : Except Failure Offer := do
  match ← c.ofEntryPoint? spec with
  | some found => pure found
  | none =>
    match ← c.ofPath? spec with
    | some found => pure found
    | none => throw (.error (.unknownBackend spec c.available))

/-- The backend that an offer gives. -/
def make (spec : String) : Offer → Except Failure Backend
  | .backend b => .ok b
  | .other | .nothing => .error (.error (.notBackend spec))
  | .failing why => .error (if why.isOrdinary then .error (.unmakeable spec why) else why)

/-- The backend of a specification. -/
def find (c : Catalogue) (spec : Option String) : Except Failure Backend :=
  match spec with
  | none => .error (.error .noBackend)
  | some spec =>
    if spec.isEmpty then .error (.error .noBackend)
    else
      match lookupEntry spec c.builtin with
      | some b => .ok b
      | none => do make spec (← c.target spec)

/-- The record of a backend that was looked for and found; a built-in one is not looked for. -/
def foundText? (c : Catalogue) (spec : String) (b : Backend) : Option String :=
  if (lookupEntry spec c.builtin).isSome then none
  else some ("[backend:load] " ++ spec ++ " -> " ++ b.className)

/-- The backend of a specification is found, which goes to the log. -/
def load (c : Catalogue) (spec : Option String) : Action Backend := do
  let b ← ofExcept (c.find spec)
  match foundText? c (spec.getD "") b with
  | some text => Action.logged .info .discovery text
  | none => pure ()
  pure b

end Catalogue

end UnitFoundry
