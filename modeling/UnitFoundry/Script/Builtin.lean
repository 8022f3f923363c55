import UnitFoundry.Script.Exception

/-!
# Types and functions that every script has

Calls of the types and functions that need no import. The common ones do their work; the others are
there to be named and passed on.

* `callType` — a call of a type;
* `callFunction` — a call of a function.
-/

namespace UnitFoundry.Script

open Text

/-- The refusal of a number of arguments by something that takes exactly some. -/
def takesExactly (name : String) (expected given : Nat) : Action α :=
  if expected = 1 then
    wrongType (name ++ "() takes exactly one argument (" ++ showNat given ++ " given)")
  else
    wrongType (name ++ " expected " ++ showNat expected ++ " arguments, got " ++ showNat given)

/-- The refusal of a number of arguments by something that takes some at least or at most. -/
def expects (name bound : String) (limit given : Nat) : Action α :=
  wrongType (name ++ " expected at " ++ bound ++ " " ++ showNat limit ++ " argument" ++
    (if limit = 1 then "" else "s") ++ ", got " ++ showNat given)

/-! ## Kinds -/

/-- Whether a type is another one or descends from it. -/
def isSubtype (own type : Value) : Bool :=
  match own, type with
  | _, .builtinType "object" => true
  | .builtinType "bool", .builtinType "int" => true
  | .exceptionType kind, .exceptionType ancestor => isKind kind ancestor
  | own, type => own = type

/-- Whether a value is of a type, either by itself or because it says so. -/
def isOfType (engine : Engine) (value type : Value) : Action Bool := do
  if isSubtype (← typeOf value) type then pure true
  else
    match ← attributeOf? engine value "__class__" with
    | some said => do pure ((← isType said) && isSubtype said type)
    | none => pure false

/-- Whether a value is of a type or of one of several. -/
def isInstance (engine : Engine) (value type : Value) : Action Bool := do
  let types ← match ← Action.object? type with
    | some (.tuple items) => pure items
    | _ => pure [type]
  types.foldlM (fun found type => do
    if !(← isType type) then
      wrongType "isinstance() arg 2 must be a type, a tuple of types, or a union"
    else if found then pure true
    else isOfType engine value type) false

/-! ## Types -/

/-- Digits without the underscores that may stand between them; an underscore elsewhere is kept. -/
def joinedDigits : List Char → List Char
  | a :: '_' :: b :: rest =>
    if a.isAlphanum && b.isAlphanum then a :: joinedDigits (b :: rest)
    else a :: '_' :: joinedDigits (b :: rest)
  | c :: rest => c :: joinedDigits rest
  | [] => []

/-- The whole number that a value is made into. -/
def toWhole (engine : Engine) (value : Value) : Action Value := do
  match value, value.asWhole? with
  | .text s _, _ =>
    match readWhole 10 (String.ofList (joinedDigits (plainNumeral s))) with
    | .ok n => Action.newWhole n
    | .error _ =>
      match readWhole 10 s with
      | .ok n => Action.newWhole n
      | .error message => Action.exception "ValueError" message
  | _, some n => Action.newWhole n
  | _, none =>
    let operation ← match ← special? engine value "__int__" with
      | some operation => pure (some operation)
      | none => special? engine value "__index__"
    match operation with
    | some operation => operation []
    | none =>
      wrongType ("int() argument must be a string, a bytes-like object or a real number, not '" ++
        (← kindOf value) ++ "'")

/-- A call of a type that every script has. -/
def callType (engine : Engine) (name : String) (arguments : List Value) : Action Value := do
  match name, arguments with
  | "str", [] => pure (.text "")
  | "str", [value] => do Action.newText (← plain engine value)
  | "bool", [] => pure (.bool false)
  | "bool", [value] => do pure (.bool (← truth engine value))
  | "bool", given => expects "bool" "most" 1 given.length
  | "int", [] => pure (.whole 0)
  | "int", [value] => toWhole engine value
  | "list", [] => Action.newObject (.list [])
  | "list", [value] => do Action.newObject (.list (← itemsOf engine value))
  | "list", given => expects "list" "most" 1 given.length
  | "tuple", [] => Action.newObject (.tuple [])
  | "tuple", [value] => do Action.newObject (.tuple (← itemsOf engine value))
  | "tuple", given => expects "tuple" "most" 1 given.length
  | "dict", [] => Action.newObject (.record [])
  | "object", [] => Action.newObject .blank
  | "object", _ => wrongType "object() takes no arguments"
  | "NoneType", [] => pure .none
  | "NoneType", _ => wrongType "NoneType takes no arguments"
  | "type", [value] => typeOf value
  | "type", _ => wrongType "type() takes 1 or 3 arguments"
  | name, _ => Action.exception "NotImplementedError" (name ++ " cannot be called here")

/-! ## Functions -/

/-- The number of items of a value. -/
def lengthOf (engine : Engine) (value : Value) : Action Value := do
  match value, ← Action.object? value with
  | .text s _, _ => pure (.whole s.length)
  | _, some (.list items) | _, some (.tuple items) => pure (.whole items.length)
  | _, some (.record entries) => pure (.whole entries.length)
  | _, _ =>
    match ← special? engine value "__len__" with
    | some count => do
      let n ← indexOnly engine (← count [])
      if n < 0 then Action.exception "ValueError" "__len__() should return >= 0" else pure (.whole n)
    | none => do wrongType ("object of type '" ++ (← kindOf value) ++ "' has no len()")

/-- The text that names an attribute. -/
def attributeName (name : Value) : Action String := do
  match name with
  | .text s _ => pure s
  | other => do wrongType ("attribute name must be string, not '" ++ (← kindOf other) ++ "'")

/-- A name of a value is given a value. -/
def setAttribute (value : Value) (name : String) (to_ : Value) : Action Unit := do
  match value, ← Action.object? value with
  | .module id, _ => do
    checkSettable name to_
    Action.assign id name to_
  | .object id, some (.bundle _) => do
    checkSettable name to_
    Action.changeObject id fun o =>
      match o with
      | .bundle entries => .bundle (setEntry name to_ entries)
      | o => o
  | .object id, some (.made _ _) =>
    Action.changeObject id fun o =>
      match o with
      | .made type own => .made type (setEntry name to_ own)
      | o => o
  | .object id, some (.type _) =>
    Action.changeObject id fun o =>
      match o with
      | .type d => .type { d with members := setEntry name to_ d.members }
      | o => o
  | value, _ =>
    match ← ownAttribute? value name with
    | some _ => do
      Action.exception "AttributeError"
        ("'" ++ (← kindOf value) ++ "' object attribute '" ++ name ++ "' is read-only")
    | none => do throw (← missingAttribute value name)

/-- A call of a function that every script has. -/
def callFunction (engine : Engine) (name : String) (arguments : List Value) : Action Value := do
  match name, arguments with
  | "len", [value] => lengthOf engine value
  | "repr", [value] => do Action.newText (← quoted engine value)
  | "callable", [value] => do pure (.bool (← isCallable value))
  | "isinstance", [value, type] => do pure (.bool (← isInstance engine value type))
  | "getattr", [value, name] => do attributeOf engine value (← attributeName name)
  | "getattr", [value, name, other] => do
    pure ((← attributeOf? engine value (← attributeName name)).getD other)
  | "hasattr", [value, name] => do
    pure (.bool (← attributeOf? engine value (← attributeName name)).isSome)
  | "setattr", [value, name, to_] => do
    setAttribute value (← attributeName name) to_
    pure .none
  | "abs", [value] =>
    match value.asWhole? with
    | some n => Action.newWhole n.natAbs
    | none => do wrongType ("bad operand type for abs(): '" ++ (← kindOf value) ++ "'")
  | "ord", [.text s _] =>
    match s.toList with
    | [c] => Action.newWhole c.toNat
    | chars =>
      wrongType ("ord() expected a character, but string of length " ++ showNat chars.length ++
        " found")
  | "ord", [value] => do
    wrongType ("ord() expected string of length 1, but " ++ (← kindOf value) ++ " found")
  | "chr", [value] => do
    let n ← indexOnly engine value
    if 0 ≤ n && n < 0x110000 then Action.newText (String.singleton (Char.ofNat n.toNat))
    else Action.exception "ValueError" "chr() arg not in range(0x110000)"
  | "any", [value] => do
    pure (.bool (← (← itemsOf engine value).anyM (truth engine)))
  | "all", [value] => do
    pure (.bool (← (← itemsOf engine value).allM (truth engine)))
  | "sum", [value] => do
    (← itemsOf engine value).foldlM (operate engine .add) (.whole 0)
  | "print", _ => pure .none
  | "isinstance", given | "hasattr", given => takesExactly name 2 given.length
  | "setattr", given => takesExactly name 3 given.length
  | "getattr", given =>
    if given.length < 2 then expects name "least" 2 given.length
    else expects name "most" 3 given.length
  | "len", given | "repr", given | "callable", given | "abs", given | "ord", given | "chr", given
  | "any", given | "all", given => takesExactly name 1 given.length
  | name, _ => Action.exception "NotImplementedError" (name ++ " cannot be called here")

end UnitFoundry.Script
