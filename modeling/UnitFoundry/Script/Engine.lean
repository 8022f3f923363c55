import UnitFoundry.Script.Library
import UnitFoundry.Session

/-!
# Kinds, members and attributes

Loading units and calling values are not done here: they are operations of an `Engine`, which the
loader provides, so that what scripts do with values is no recursion of its own.

* `Engine` — the operations that start another body;
* `kindOf`, `typeOf` — what a value is;
* `special?` — what the type of an object says about an operation;
* `attributeOf` — the attributes of values.
-/

namespace UnitFoundry.Script

open Text

/-- The operations that start another body: that of a unit, or that of a function. -/
structure Engine where
  load : ContextId → Action ModuleId
  call : Value → List Value → Action Value

/-! ## Kinds -/

/-- A name cut after a number of bytes, as messages cut the names of kinds. -/
def clipped (limit : Nat) (name : String) : String :=
  if name.utf8ByteSize ≤ limit then name
  else
    let fits (n : Nat) : Bool := (String.ofList (name.toList.take n)).utf8ByteSize ≤ limit
    let count := ((List.range (limit + 1)).filter fits).getLastD 0
    let kept := String.ofList (name.toList.take count)
    if kept.utf8ByteSize = limit then kept else kept ++ "\uFFFD"

/-- The type with a number. -/
def definition (id : ObjectId) : Action TypeDefinition := do
  match ← Action.object id with
  | .type d => pure d
  | _ => pure default

/-- What bundles are called. -/
def bundleKind : String := "types.SimpleNamespace"

/-- The name of an object's kind. -/
def objectKind : Object → Action String
  | .blank => pure "object"
  | .list _ => pure "list"
  | .tuple _ => pure "tuple"
  | .record _ => pure "dict"
  | .bundle _ => pure bundleKind
  | .function _ => pure "function"
  | .type _ => pure "type"
  | .made type _ => do pure (← definition type).name
  | .exception kind _ _ => pure kind
  | .bound _ _ => pure "method"
  | .method m =>
    pure (match m with
      | .load _ | .loadUnit _ => "method"
      | _ => Library.builtinKind)

/-- The name of a value's kind, as messages give it. -/
def kindOf : Value → Action String
  | .none => pure "NoneType"
  | .notImplemented => pure "NotImplementedType"
  | .bool _ => pure "bool"
  | .whole _ _ => pure "int"
  | .text _ _ => pure "str"
  | .module _ | .library _ => pure "module"
  | .object id => do objectKind (← Action.object id)
  | .exceptionType _ | .builtinType _ => pure "type"
  | .builtinFunction _ => pure Library.builtinKind
  | .dumps => pure "function"
  | .thing kind _ => pure kind
  | .importer _ => pure "method"
  | .context _ => pure "LoadingContext"
  | .artifact _ => pure "VirtualFile"

/-- The last part of a dotted name. -/
def lastPart (name : String) : String := (pieces '.' name).getLastD name

/-- The name that a value's type has. -/
def typeNameOf (value : Value) : Action String := do
  let kind ← kindOf value
  match value with
  | .object id =>
    match ← Action.object id with
    | .bundle _ => pure (lastPart kind)
    | _ => pure kind
  | _ => pure kind

/-- The type of a value. -/
def typeOf (value : Value) : Action Value := do
  match value with
  | .object id =>
    match ← Action.object id with
    | .made type _ => pure (.object type)
    | .exception kind _ _ => pure (.exceptionType kind)
    | o => do pure (.builtinType (← objectKind o))
  | value => do pure (.builtinType (← kindOf value))

/-- Whether a value is a type. -/
def isType (value : Value) : Action Bool := do
  match value with
  | .exceptionType _ | .builtinType _ => pure true
  | .thing kind _ => pure (kind = "type")
  | .object id =>
    match ← Action.object id with
    | .type _ => pure true
    | _ => pure false
  | _ => pure false

/-- Whether a name of a module or a bundle can be set to a value of some kind. What they are and the
tables of their names are not theirs to choose. -/
def settable (name kind : String) (isType : Bool) : Except Failure Unit :=
  if name = "__class__" then
    .error (.exception "TypeError"
      (if isType then "__class__ assignment only supported for mutable types or ModuleType subclasses"
      else "__class__ must be set to a class, not '" ++ clipped 200 kind ++ "' object"))
  else if name = "__dict__" then .error (.exception "AttributeError" "readonly attribute")
  else .ok ()

/-- A name of a module or a bundle is about to be set to a value. -/
def checkSettable (name : String) (value : Value) : Action Unit := do
  ofExcept (settable name (← kindOf value) (← isType value))

/-- Whether a value is a function that takes the object it is found in as its first argument. -/
def takesSelf (value : Value) : Action Bool := do
  match value with
  | .dumps => pure true
  | .thing kind _ => pure (kind = "function")
  | .object id =>
    match ← Action.object id with
    | .function _ => pure true
    | _ => pure false
  | _ => pure false

/-! ## Members of types -/

/-- What the type of an object has under a name. -/
def member? (value : Value) (name : String) : Action (Option Value) := do
  match ← Action.object? value with
  | some (.made type _) => do pure (lookupEntry name (← definition type).members)
  | _ => pure none

/-- The operation of a name on an object, if the type of the object is one of a script and says
what it does. -/
def special? (engine : Engine) (value : Value) (name : String) :
    Action (Option (List Value → Action Value)) := do
  match ← member? value name with
  | none => pure none
  | some found =>
    if ← takesSelf found then pure (some fun arguments => engine.call found (value :: arguments))
    else pure (some fun arguments => engine.call found arguments)

/-- Whether a value can be called. -/
def isCallable (value : Value) : Action Bool := do
  match value with
  | .exceptionType _ | .builtinType _ | .builtinFunction _ | .dumps | .importer _ => pure true
  | .thing kind _ =>
    pure (["type", "function", Library.builtinKind, "_Printer", "Quitter", "_Helper"].contains kind)
  | .object id =>
    match ← Action.object id with
    | .function _ | .type _ | .bound _ _ | .method _ => pure true
    | .made _ _ => do pure (← member? value "__call__").isSome
    | _ => pure false
  | _ => pure false

/-! ## Attributes -/

/-- A value found in the type of an object, as an attribute of the object. -/
def bindMember (self found : Value) : Action Value := do
  if ← takesSelf found then Action.newObject (.bound found self) else pure found

/-- The attributes of a function besides those that are values of names. -/
def functionAttribute? (f : Function) : String → Option Value
  | "__name__" => some (.text f.name)
  | "__qualname__" => some (.text f.fullName)
  | "__module__" => some f.place
  | "__doc__" => some (((documentation? f.body).map fun text => Value.text text).getD .none)
  | "__defaults__" | "__kwdefaults__" | "__closure__" => some .none
  | "__code__" => some (.thing "code" f.name)
  | "__globals__" | "__dict__" | "__annotations__" => some (.thing "dict" "")
  | _ => none

/-- The attributes of an exception. -/
def exceptionAttribute? (kind : String) (arguments details : List Value) (name : String) :
    Action (Option Value) := do
  let part (n : Nat) : Value := details[n]?.getD .none
  let first : Value := arguments.head?.getD .none
  match name with
  | "args" => some <$> Action.newObject (.tuple arguments)
  | "__cause__" | "__context__" | "__traceback__" => pure (some .none)
  | "__suppress_context__" => pure (some (.bool false))
  | "msg" =>
    if isKind kind "ImportError" then
      pure (some (if arguments.length = 1 then first else .none))
    else if isKind kind "SyntaxError" then pure (some first)
    else pure none
  | "name" =>
    pure (if ["ImportError", "NameError", "AttributeError"].any (isKind kind) then some .none else none)
  | "path" => pure (if isKind kind "ImportError" then some .none else none)
  | "obj" => pure (if isKind kind "AttributeError" then some .none else none)
  | "errno" => pure (if isKind kind "OSError" then some (part 0) else none)
  | "strerror" => pure (if isKind kind "OSError" then some (part 1) else none)
  | "filename" => pure (if isKind kind "OSError" then some (part 2) else none)
  | "filename2" => pure (if isKind kind "OSError" then some (part 3) else none)
  | "value" => pure (if isKind kind "StopIteration" then some first else none)
  | "code" =>
    if isKind kind "SystemExit" then
      if arguments.length ≤ 1 then pure (some first)
      else some <$> Action.newObject (.tuple arguments)
    else pure none
  | "message" | "exceptions" =>
    if isKind kind "BaseExceptionGroup" then
      if name = "message" then pure (some first) else some <$> Action.newObject (.tuple details)
    else pure none
  | _ => pure none

/-- The attributes of an object. -/
def objectAttribute? (value : Value) (o : Object) (name : String) : Action (Option Value) := do
  match o with
  | .list _ =>
    match name, value with
    | "append", .object id => some <$> Action.newObject (.method (.append id))
    | _, _ => pure none
  | .blank | .tuple _ | .record _ | .method _ => pure none
  | .bundle entries =>
    if name = "__dict__" then some <$> Action.newObject (.record entries)
    else pure (lookupEntry name entries)
  | .function f => pure (functionAttribute? f name)
  | .type d =>
    match name with
    | "__name__" => pure (some (.text d.name))
    | "__qualname__" => pure (some (.text d.fullName))
    | "__dict__" => pure (some (.thing "mappingproxy" d.name))
    | "__bases__" => some <$> Action.newObject (.tuple [.builtinType "object"])
    | "__mro__" => some <$> Action.newObject (.tuple [value, .builtinType "object"])
    | name => pure (lookupEntry name d.members)
  | .made type own =>
    if name = "__dict__" then some <$> Action.newObject (.record own)
    else
      match lookupEntry name own, lookupEntry name (← definition type).members with
      | some found, _ => pure (some found)
      | none, some found => some <$> bindMember value found
      | none, none => pure none
  | .exception kind arguments details => exceptionAttribute? kind arguments details name
  | .bound f self =>
    match name with
    | "__self__" => pure (some self)
    | "__func__" => pure (some f)
    | name =>
      match ← Action.object? f with
      | some (.function f) => pure (functionAttribute? f name)
      | _ => pure none

/-- The attributes of a context. -/
def contextAttribute? (id : ContextId) (name : String) : Action (Option Value) := do
  let c ← Action.context id
  match name with
  | "qualified_name" => pure (some (.text c.qualified))
  | "canonical_name" => pure (some (.text c.canonical))
  | "is_loaded" | "_ready" => pure (some (.bool c.ready))
  | "_module" => pure (some ((c.module?.map fun m => Value.module m).getD .none))
  | "artifact" => pure (some (.artifact id))
  | "load" => some <$> Action.newObject (.method (.load id))
  | "load_unit" => some <$> Action.newObject (.method (.loadUnit id))
  | "_import" => pure (some (.importer id))
  | _ => pure none

/-- The attributes of the artifact of a context. -/
def artifactAttribute? (id : ContextId) (name : String) : Action (Option Value) := do
  let file := (← Action.context id).artifact
  match name with
  | "uri" | "name" => pure (some (.text file.uri))
  | "binary_name" => pure (some (.text file.name))
  | "is_frozen" => pure (some (.bool file.isFrozen))
  | "kind" => pure (some (.thing "FileKind" file.kind.label))
  | _ => pure none

/-- The value of an attribute that a value has by itself. -/
def ownAttribute? (value : Value) (name : String) : Action (Option Value) := do
  if name = "__class__" then
    match ← member? value name with
    | some found => some <$> bindMember value found
    | none => some <$> typeOf value
  else
    match value with
    | .module id => do
      let m ← Action.module id
      if name = "__dict__" then some <$> Action.newObject (.record m.names)
      else pure (m.get? name)
    | .library which =>
      match which.entry? name, which.offered? with
      | none, some names =>
        if name = "__all__" then some <$> Action.newObject (.list (names.map Value.text)) else pure none
      | found, _ => pure found
    | .text _ _ =>
      match name with
      | "upper" => some <$> Action.newObject (.method (.upper value))
      | "lower" => some <$> Action.newObject (.method (.lower value))
      | _ => pure none
    | .whole n _ =>
      pure (match name with
        | "real" | "numerator" => some (.whole n)
        | "imag" => some (.whole 0)
        | "denominator" => some (.whole 1)
        | _ => none)
    | .exceptionType kind | .builtinType kind | .thing "type" kind =>
      pure (match name with
        | "__name__" | "__qualname__" => some (.text (lastPart kind))
        | "__module__" => some (.text "builtins")
        | _ => none)
    | .builtinFunction kind | .thing "function" kind | .thing "builtin_function_or_method" kind =>
      pure (if name = "__name__" || name = "__qualname__" then some (.text kind) else none)
    | .dumps =>
      pure (match name with
        | "__name__" | "__qualname__" => some (.text "dumps")
        | "__module__" => some (.text "json")
        | _ => none)
    | .object id => do objectAttribute? value (← Action.object id) name
    | .context id => contextAttribute? id name
    | .artifact id => artifactAttribute? id name
    | _ => pure none

/-- What a message about an attribute that is not there calls a value. A function that was taken from
an object is named as the function it is. -/
def ownerText (value : Value) : Action String := do
  match value with
  | .module id => do
    match (← Action.module id).get? "__name__" with
    | some (.text s _) => pure ("module '" ++ s ++ "'")
    | _ => pure "module"
  | .library which => pure ("module '" ++ which.name ++ "'")
  | .exceptionType kind | .builtinType kind | .thing "type" kind =>
    pure ("type object '" ++ clipped 50 kind ++ "'")
  | .importer _ => pure "'function' object"
  | .object id =>
    match ← Action.object id with
    | .type d => pure ("type object '" ++ clipped 50 d.name ++ "'")
    | .bound f _ => do pure ("'" ++ (← kindOf f) ++ "' object")
    | .method (.load _) | .method (.loadUnit _) => pure "'function' object"
    | o => do pure ("'" ++ clipped 50 (← objectKind o) ++ "' object")
  | other => do pure ("'" ++ clipped 50 (← kindOf other) ++ "' object")

/-- The failure of an attribute that is not there. -/
def missingAttribute (value : Value) (name : String) : Action Failure := do
  let owner ← ownerText value
  pure (.exception "AttributeError" (owner ++ " has no attribute '" ++ name ++ "'"))

/-- Whether a failure says that an attribute is not there. -/
def isMissing (failure : Failure) : Bool := failure.isKindOf "AttributeError"

/-- The operation that gives the attributes which a value does not have by itself. -/
def fallback? (engine : Engine) (value : Value) : Action (Option (List Value → Action Value)) := do
  match value with
  | .module id => do
    pure (((← Action.module id).get? "__getattr__").map fun hook => engine.call hook)
  | value => special? engine value "__getattr__"

/-- The value of an attribute that is found without the help of the operation for those that are not
there. A type of a script may say how all its attributes are found. -/
def attributeAtFirst (engine : Engine) (value : Value) (name : String) : Action Value := do
  match ← special? engine value "__getattribute__" with
  | some get => get [.text name]
  | none =>
    match ← ownAttribute? value name with
    | some found => pure found
    | none => do throw (← missingAttribute value name)

/-- The value of an attribute. A type of a script may say how those are found that would not be found
otherwise. -/
def attributeOf (engine : Engine) (value : Value) (name : String) : Action Value := do
  match ← Action.attempt (attributeAtFirst engine value name) with
  | .ok found => pure found
  | .error failure =>
    if isMissing failure then
      match ← fallback? engine value with
      | some get => get [.text name]
      | none => throw failure
    else throw failure

/-- The value of an attribute, if there is one. -/
def attributeOf? (engine : Engine) (value : Value) (name : String) : Action (Option Value) := do
  match ← Action.attempt (attributeOf engine value name) with
  | .ok found => pure (some found)
  | .error failure => if isMissing failure then pure none else throw failure

end UnitFoundry.Script
