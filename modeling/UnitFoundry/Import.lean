import UnitFoundry.Script.Engine

/-!
# Imports

How a unit finds what it imports. A unit knows itself by its versioned and its canonical name; then
come the units in the registry, and last the modules that are no units.

* `resolve` — the context that a name leads to from a context;
* `packageOf` — the package that the names of a module say it belongs to;
* `importModule` — what an import of a module gives, be it a unit (`importUnit`) or not (`importOther`);
* `importLibrary` — the same for modules that are no units;
* `loadUnit` — a unit or other module by its full name.
-/

namespace UnitFoundry.Import

open Script Text UnitFoundry.Action

/-- The operation that loads contexts. -/
abbrev Loader := ContextId → Action ModuleId

/-- The context that a name leads to from a context: its own if the name is one of its own names,
else the active one. -/
def resolve (from_ : ContextId) (name : String) : Action (Option ContextId) := do
  let c ← context from_
  if name = c.qualified || name = c.canonical then pure (some from_) else find name

/-! ## Modules that are no units -/

/-- The failure of a search for a module. -/
def notFound (name : String) (reason : String := "") : Failure :=
  .exception "ModuleNotFoundError" ("No module named " ++ quote name ++ reason)

/-- The module with a name, whose parts before `done` have been found. -/
def findLibraryFrom (done : String) (found : Option Library) : List String → Except Failure Library
  | [] =>
    match found with
    | some library => .ok library
    | none => .error (.exception "ValueError" "Empty module name")
  | part :: rest =>
    let name := if found.isSome then done ++ "." ++ part else part
    match Library.ofName? name with
    | some library => findLibraryFrom name (some library) rest
    | none =>
      match found with
      | some parent =>
        if parent.isPackage then .error (notFound name)
        else .error (notFound name ("; " ++ quote done ++ " is not a package"))
      | none => .error (notFound name)

/-- The module with a name. -/
def findLibrary (name : String) : Except Failure Library :=
  if name.isEmpty then .error (.exception "ValueError" "Empty module name")
  else findLibraryFrom "" none (pieces '.' name)

/-- A package without as many of its last parts as `steps` says. -/
def packageAbove : Nat → List Char → Option (List Char)
  | 0, package => some package
  | steps + 1, package =>
    if package.contains '.' then packageAbove steps (cutLast '.' package).1 else none

/-- The failure of a relative import in a module that belongs to no package. -/
def noPackage : Failure :=
  .exception "ImportError" "attempted relative import with no known parent package"

/-- The full name of a module that is named from a package, `level - 1` packages above it. -/
def absoluteName (package name : String) (level : Nat) : Except Failure String :=
  if package.isEmpty then .error noPackage
  else
    match packageAbove (level - 1) package.toList with
    | some base =>
      .ok (if name.isEmpty then String.ofList base else String.ofList base ++ "." ++ name)
    | none => .error (.exception "ImportError" "attempted relative import beyond top-level package")

/-- The package of a module without a package of its own: what stands before the last part of its
name, or its name if it has places for modules below it. -/
def packageFromName (names : List (String × Value)) : Except Failure String :=
  match lookupEntry "__name__" names with
  | none => .error (.exception "KeyError" (quote "'__name__' not in globals"))
  | some (.text name _) =>
    if (lookupEntry "__path__" names).isSome then .ok name
    else if name.toList.contains '.' then .ok (String.ofList (cutLast '.' name.toList).1)
    else .error noPackage
  | some _ => .error (.exception "TypeError" "__name__ must be a string")

/-- The package that the names of a module say it belongs to. -/
def packageOf (engine : Engine) (names : List (String × Value)) : Action String := do
  let spec := (lookupEntry "__spec__" names).getD .none
  match (lookupEntry "__package__" names).getD .none with
  | .text package _ => do
    if spec != .none then
      let _ ← attributeOf engine spec "parent"
    pure package
  | .none =>
    if spec = .none then ofExcept (packageFromName names)
    else
      match ← attributeOf engine spec "parent" with
      | .text package _ => pure package
      | _ => Action.exception "TypeError" "__spec__.parent must be a string"
  | _ => Action.exception "TypeError" "package must be a string"

/-- What the import of a module that is no unit gives: the module itself if names are wanted of it,
else the first of the packages that lead to it. -/
def importLibrary (package name : String) (isWanted : Bool) (level : Nat) : Except Failure Library := do
  let full ← if level = 0 then pure name else absoluteName package name level
  let library ← findLibrary full
  if isWanted || (level != 0 && name.isEmpty) then pure library
  else if level = 0 then findLibrary (UnitName.top name)
  else
    let below := (pieces '.' name).length - 1
    findLibrary (".".intercalate ((pieces '.' full).take ((pieces '.' full).length - below)))

/-! ## Units -/

/-- A module inside as many bundles as parts of its name lead to it. -/
def nestParts (module : Value) : List String → Action Value
  | [] => pure module
  | part :: rest => do
    ofExcept (settable part (if rest.isEmpty then "module" else bundleKind) false)
    Action.newObject (.bundle [(part, ← nestParts module rest)])

/-- What stands for the first part of a module's name so that the other parts lead to the module. -/
def nest (name : String) (module : Value) : Action Value := nestParts module (pieces '.' name).tail

/-- The units that bear wanted names below a package, loaded one after the other; none if one of the
names leads to no unit. -/
def members (load : Loader) (from_ : ContextId) (package : String) :
    List String → List (String × Value) → Action (Option (List (String × Value)))
  | [], found => pure (some found)
  | item :: rest, found => do
    match ← resolve from_ (package ++ "." ++ item) with
    | none => pure none
    | some id => do
      let m ← load id
      members load from_ package rest (setEntry item (.module m) found)

/-- What an import gives whose name leads to a unit: the unit if names are wanted of it, else the bundles
that lead to it. -/
def importUnit (load : Loader) (id : ContextId) (name : String) (wanted : List String) :
    Action Value := do
  let m ← load id
  if wanted.isEmpty then nest name (.module m) else pure (.module m)

/-- What an import gives whose name leads to no unit: the wanted units of a package that is only the
beginning of their names, or a module that is no unit. -/
def importOther (load : Loader) (from_ : ContextId) (name : String) (wanted : List String) :
    Action Value := do
  let items := wanted.filter (· != "*")
  let found ← if items.isEmpty then pure none else members load from_ name items []
  match found with
  | some entries => Action.newObject (.bundle entries)
  | none => pure (.library (← ofExcept (importLibrary "" name (!wanted.isEmpty) 0)))

/-- What an import gives. Imports from a package above count from the package that the names of the
importing module tell, and give modules that are no units. -/
def importModule (engine : Engine) (from_ : ContextId) (names : List (String × Value))
    (name : String) (wanted : List String) (level : Nat) : Action Value := do
  if level != 0 then
    let package ← packageOf engine names
    pure (.library (← ofExcept (importLibrary package name (!wanted.isEmpty) level)))
  else
    match ← resolve from_ name with
    | some id => importUnit engine.load id name wanted
    | none => importOther engine.load from_ name wanted

/-- A module that is no unit, by its full name. -/
def loadOther (name : String) : Action Value := do
  if beginsWith name "." then
    Action.exception "TypeError"
      ("the 'package' argument is required to perform a relative import for " ++ quote name)
  else pure (.library (← ofExcept (findLibrary name)))

/-- The unit or other module with a full name, as a unit's own imports resolve it. -/
def loadUnit (load : Loader) (from_ : ContextId) (name : String) : Action Value := do
  match ← resolve from_ name with
  | some id => do
    let m ← load id
    pure (.module m)
  | none => loadOther name

end UnitFoundry.Import
