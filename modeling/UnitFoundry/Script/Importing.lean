import UnitFoundry.Import
import UnitFoundry.Script.Builtin

/-!
# What scripts import

The import that a script asks for by a call, where any value can stand for a name, and what is taken
out of what an import gave.

* `callImporter` — an import that is asked for by a call;
* `importedName` — a name taken out of what an import gave;
* `publicNames`, `offeredAt` — the names that are offered to an import of all names.
-/

namespace UnitFoundry.Script

open Text

/-! ## Imports by a call -/

/-- Whether a value can be the key of a table. -/
def isHashed (value : Value) : Action Bool := do
  match ← Action.object? value with
  | some (.list _) | some (.record _) | some (.bundle _) => pure false
  | some (.made _ _) => do
    pure ((← member? value "__eq__").isNone || (← member? value "__hash__").isSome)
  | _ => pure true

/-- The context that a value leads to as a name. Only texts are names, but a value may say that it is
equal to one. -/
def resolveValue (engine : Engine) (context : ContextId) (name : Value) :
    Action (Option ContextId) := do
  let c ← Action.context context
  match name with
  | .text s _ => Import.resolve context s
  | other =>
    if ← isEqual engine other (.text c.qualified) then pure (some context)
    else if ← isEqual engine other (.text c.canonical) then pure (some context)
    else
      let kind ← kindOf other
      if ← isHashed other then wrongType ("expected string or bytes-like object, got '" ++ kind ++ "'")
      else wrongType ("unhashable type: '" ++ kind ++ "'")

/-- The units that values name below a package, loaded one after the other, each with its name; none
if one of the values leads to no unit. -/
def importMembers (engine : Engine) (context : ContextId) (package : String) :
    List Value → Action (Option (List (Value × ModuleId)))
  | [] => pure (some [])
  | item :: rest => do
    let name ← plain engine item
    match ← Import.resolve context (package ++ "." ++ name) with
    | none => pure none
    | some id => do
      let m ← engine.load id
      match ← importMembers engine context package rest with
      | none => pure none
      | some others => pure (some ((item, m) :: others))

/-- Named modules as a bundle. -/
def bundleOf (members : List (Value × ModuleId)) : Action Value := do
  let entries ← members.foldlM (fun entries (name, m) =>
    match name with
    | .text s _ => pure (setEntry s (Value.module m) entries)
    | _ => wrongType "keywords must be strings") []
  Action.newObject (.bundle entries)

/-- The package that an import counts from, given the names of the importing module and the number of
packages to go up. -/
def packageFrom (engine : Engine) (globals : Value) (steps : Int) : Action String := do
  if steps = 0 then pure ""
  else
    match ← Action.object? globals with
    | some (.record names) => Import.packageOf engine names
    | _ => wrongType "globals must be a dict"

/-- Whether an import wants names of a module. -/
def wantsNames (engine : Engine) (listed : Option Value) : Action Bool := do
  match listed with
  | some value => truth engine value
  | none => pure false

/-- The names that are wanted of a package have to be texts. -/
def checkWanted (engine : Engine) (listed : Value) : Action Unit := do
  (← itemsOf engine listed).forM fun item =>
    match item with
    | .text _ _ => pure ()
    | other => do wrongType ("Item in ``from list'' must be str, not " ++ (← typeNameOf other))

/-- What the import of a module that is no unit gives, where any values can stand for what is wanted. -/
def importLibraryValue (engine : Engine) (name globals : Value) (listed : Option Value)
    (level : Value) : Action Value := do
  let steps ← indexOnly engine level
  match name with
  | .text s _ =>
    if steps < 0 then Action.exception "ValueError" "level must be >= 0"
    else do
      let package ← packageFrom engine globals steps
      let isWanted ← wantsNames engine listed
      let library ← ofExcept (Import.importLibrary package s isWanted steps.toNat)
      if isWanted && library.isPackage then checkWanted engine (listed.getD .none)
      pure (.library library)
  | _ => wrongType "module name must be a string"

/-- The names that an import wants one by one. -/
def wantedNames (engine : Engine) (listed : Option Value) : Action (List Value) := do
  let items ← if ← wantsNames engine listed then itemsOf engine (listed.getD .none) else pure []
  items.filterM fun item => do truth engine (← unequal engine item (.text "*"))

/-- What an import by a name gives that leads to a unit. -/
def importNamedUnit (engine : Engine) (id : ContextId) (name : Value) (listed : Option Value) :
    Action Value := do
  let m ← engine.load id
  if ← wantsNames engine listed then pure (.module m)
  else Import.nest (← plain engine name) (.module m)

/-- What an import by a name gives that leads to no unit: the units below it that are wanted;
`otherwise` is the import of a module that is no unit. -/
def importNamedOther (engine : Engine) (context : ContextId) (name : Value) (listed : Option Value)
    (otherwise : Action Value) : Action Value := do
  let wanted ← wantedNames engine listed
  if wanted.isEmpty then otherwise
  else
    match ← importMembers engine context (← plain engine name) wanted with
    | some members => bundleOf members
    | none => otherwise

/-- What an import by a name without packages to go up gives. -/
def importNamed (engine : Engine) (context : ContextId) (name : Value) (listed : Option Value)
    (otherwise : Action Value) : Action Value := do
  match ← resolveValue engine context name with
  | some id => importNamedUnit engine id name listed
  | none => importNamedOther engine context name listed otherwise

/-- An import that a script asks for by a call with a name, two sets of names, the names that are
wanted and the number of packages to go up. -/
def callImporter (engine : Engine) (context : ContextId) (arguments : List Value) : Action Value := do
  match arguments with
  | [] => wrongType "LoadingContext._import() missing 1 required positional argument: 'name'"
  | name :: rest =>
    if 4 < rest.length then
      wrongType ("LoadingContext._import() takes from 2 to 6 positional arguments but " ++
        showNat (rest.length + 2) ++ " were given")
    else
      let listed := rest[2]?
      let level := rest[3]?.getD (.whole 0)
      let otherwise := importLibraryValue engine name (rest[0]?.getD .none) listed level
      if ← isEqual engine level (.whole 0) then importNamed engine context name listed otherwise
      else otherwise

/-! ## What is taken out -/

/-- The name that a value gives itself, as the failure of an import out of it says. -/
def sourceName (engine : Engine) (value : Value) : Action String := do
  match ← attributeOf? engine value "__name__" with
  | some (.text s _) => pure s
  | _ => pure "<unknown module name>"

/-- The file of a value, as the failure of an import out of it says. -/
def sourceFile (value : Value) : Action String := do
  match value with
  | .module id => do
    match (← Action.module id).get? "__file__" with
    | some (.text s _) => pure s
    | _ => pure "unknown location"
  | .library which => pure (which.file?.getD "unknown location")
  | _ => pure "unknown location"

/-- A name taken out of what an import gave: an attribute, else the module that is below the one with
the value's name. -/
def importedName (engine : Engine) (value : Value) (name : String) : Action Value := do
  match ← attributeOf? engine value name with
  | some found => pure found
  | none => do
    let source ← sourceName engine value
    let file ← sourceFile value
    match Library.ofName? (source ++ "." ++ name) with
    | some library => pure (.library library)
    | none =>
      Action.exception "ImportError"
        ("cannot import name " ++ quote name ++ " from " ++ quote source ++ " (" ++ file ++ ")")

/-- The names that a value without a list of its own offers to an import of all its names. -/
def publicNames (value : Value) : Action (List String) := do
  match value, ← Action.object? value with
  | .module id, _ => do
    pure (((← Action.module id).names.map (·.1)).filter fun name => !beginsWith name "_")
  | .library which, _ => pure which.offered
  | _, some (.bundle entries) => pure ((entries.map (·.1)).filter fun name => !beginsWith name "_")
  | _, _ => pure []

/-- What a list of names has at a place, if the place is in it. -/
def offeredAt (engine : Engine) (listed : Value) (place : Nat) : Action (Option Value) := do
  match listed, ← Action.object? listed with
  | .text s _, _ => pure (s.toList[place]?.map fun c => .text (String.singleton c))
  | _, some (.list items) | _, some (.tuple items) => pure items[place]?
  | _, some (.record _) => wrongType "dict is not a sequence"
  | _, _ =>
    match ← special? engine listed "__getitem__" with
    | some operation => do
      match ← Action.attempt (operation [.whole place]) with
      | .ok found => pure (some found)
      | .error failure => if failure.isKindOf "IndexError" then pure none else throw failure
    | none =>
      wrongType ("'" ++ clipped 200 (← kindOf listed) ++ "' object does not support indexing")

/-- The name that something offered is. -/
def offeredName (engine : Engine) (value found : Value) : Action String := do
  match found with
  | .text name _ => pure name
  | other =>
    match ← attributeOf engine value "__name__" with
    | .text source _ =>
      wrongType ("Item in " ++ source ++ ".__all__ must be str, not " ++ clipped 100 (← kindOf other))
    | title =>
      wrongType ("module __name__ must be a string, not " ++ clipped 100 (← kindOf title))

end UnitFoundry.Script
