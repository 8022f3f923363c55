import UnitFoundry.Script.Importing
import UnitFoundry.Script.Scope
import UnitFoundry.Text.Casing

/-!
# Running a script

A script runs statement by statement in the module of its unit. Names are looked up in the type or
call that runs, then in the module, then among the names that every script has.

Loading other units and calling values are operations of the engine, so everything below is
recursion on the script.

* `Frame`, `Run` — where names are bound, and operations that know it;
* `evaluate`, `execute` — expressions and statements;
* `runFunction`, `instantiate`, `call` — what the engine does for a call.
-/

namespace UnitFoundry.Script

open Text

/-! ## Frames -/

/-- What runs. -/
inductive FrameKind where
  | module
  | type
  | function
  deriving Repr, DecidableEq

/-- Where names are bound while something runs: in the module, or in the frame itself. -/
structure Frame where
  home : ModuleId
  kind : FrameKind := .module
  /-- What comes before the name of a function or type in its full name. -/
  path : String := ""
  /-- The type whose private names are in reach. -/
  owner : String := ""
  /-- The names that belong to a call, bound or not. -/
  locals : List String := []
  own : List (String × Value) := []
  /-- The failure that is being handled. -/
  handled : Option Failure := none

/-- The state of the session and the frame of what runs. -/
structure Running where
  session : Session
  frame : Frame

/-- An operation of what runs. -/
abbrev Run := EStateM Failure Running

namespace Run

/-- An operation on the session. -/
def lift (act : Action α) : Run α := fun r =>
  match act r.session with
  | .ok x s => .ok x { r with session := s }
  | .error failure s => .error failure { r with session := s }

/-- An exception of a kind. -/
def exception (kind message : String) : Run α := throw (.exception kind message)

/-- An operation whose failure is a value. -/
def attempt (act : Run α) : Run (Except Failure α) := fun r =>
  match act r with
  | .ok x r => .ok (.ok x) r
  | .error failure r => .ok (.error failure) r

/-- An operation in a frame of its own, which is given back. -/
def inFrame (frame : Frame) (act : Run α) : Run (α × Frame) := fun r =>
  match act { session := r.session, frame } with
  | .ok x inner => .ok (x, inner.frame) { r with session := inner.session }
  | .error failure inner => .error failure { r with session := inner.session }

/-- An operation while a failure is being handled. -/
def handling (failure : Failure) (act : Run α) : Run α := do
  let before := (← get).frame.handled
  modify fun r => { r with frame := { r.frame with handled := some failure } }
  let result ← act
  modify fun r => { r with frame := { r.frame with handled := before } }
  pure result

/-- An operation on the session that runs in a frame. -/
def start (frame : Frame) (act : Run α) : Action α := fun s =>
  match act { session := s, frame } with
  | .ok x r => .ok x r.session
  | .error failure r => .error failure r.session

/-! ## Names -/

/-- The module whose names are in reach. -/
def home : Run UnitModule := do lift (Action.module (← get).frame.home)

/-- A name as it is known where something runs. -/
def known (name : String) : Run String := do
  pure (privateName (← get).frame.owner name)

/-- The value of a name of the module, or of one that every script has. -/
def lookupOutside (name : String) : Run Value := do
  let m ← home
  match (m.get? name).or (builtin? m.owner name) with
  | some value => pure value
  | none => exception "NameError" ("name '" ++ name ++ "' is not defined")

/-- The value of a name. -/
def lookup (written : String) : Run Value := do
  let name ← known written
  let frame := (← get).frame
  match lookupEntry name frame.own with
  | some value => pure value
  | none =>
    if frame.locals.contains name then
      exception "UnboundLocalError"
        ("cannot access local variable '" ++ name ++ "' where it is not associated with a value")
    else lookupOutside name

/-- A name is bound. -/
def bind (written : String) (value : Value) : Run Unit := do
  let name ← known written
  let frame := (← get).frame
  match frame.kind with
  | .module => lift (Action.bind frame.home name value)
  | _ => modify fun r => { r with frame := { frame with own := setEntry name value frame.own } }

end Run

/-! ## Expressions -/

/-- The full name of a function or type that is defined in a frame. -/
def Frame.fullName (frame : Frame) (name : String) : String := frame.path ++ name

mutual

/-- Whether the value of an expression is known before anything runs. -/
def Expr.isFixed : Expr → Bool
  | .constant _ => true
  | .minus operand => operand.isFixed
  | .binary _ left right => left.isFixed && right.isFixed
  | .item _ object index => object.isFixed && index.isFixed
  | .tuple items => areFixed items
  | _ => false

/-- Whether the values of expressions are known before anything runs. -/
def areFixed : List Expr → Bool
  | [] => true
  | e :: rest => e.isFixed && areFixed rest

end

/-- The value of an expression, which counts as written in the source if it is known before anything
runs. -/
def settled (e : Expr) (value : Value) : Run Value := do
  if e.isFixed then pure (value.written (← get).frame.home) else pure value

/-- A function that is defined in the frame. -/
def newFunction (name : String) (parameters : List String) (body : List Statement) : Run Value := do
  let frame := (← get).frame
  let place := ((← Run.home).get? "__name__").getD .none
  Run.lift (Action.newObject (.function
    { name, fullName := frame.fullName name, owner := frame.owner
      parameters := parameters.map (privateName frame.owner), body, home := frame.home, place }))

mutual

/-- The value of an expression. -/
def evaluate (engine : Engine) : Expr → Run Value
  | .constant value => do pure (.ofConstant (← get).frame.home value)
  | .formatted text => do pure (.ofConstant (← get).frame.home (.text text))
  | .name id => Run.lookup id
  | .list items => do
    let values ← evaluateAll engine items
    Run.lift (Action.newObject (.list values))
  | .tuple items => do
    let values ← evaluateAll engine items
    Run.lift (Action.newObject (.tuple values))
  | .attribute object name => do
    let value ← evaluate engine object
    let name ← Run.known name
    Run.lift (attributeOf engine value name)
  | .call _ function arguments => do
    let callee ← evaluate engine function
    let values ← evaluateAll engine arguments
    Run.lift (engine.call callee values)
  | .item line object index => do
    let value ← evaluate engine object
    let place ← evaluate engine index
    let found ← Run.lift (item engine value place)
    settled (.item line object index) found
  | .minus operand => do
    let value ← evaluate engine operand
    let found ← Run.lift (negate engine value)
    settled operand found
  | .binary operator left right => do
    let a ← evaluate engine left
    let b ← evaluate engine right
    let found ← Run.lift (operate engine operator a b)
    settled (.binary operator left right) found
  | .comparison _ first comparators rest => do
    let value ← evaluate engine first
    evaluateChain engine value comparators rest
  | .either left right => do
    let value ← evaluate engine left
    if ← Run.lift (truth engine value) then pure value else evaluate engine right
  | .lambda parameters body => newFunction "<lambda>" parameters [.leaveFunction 0 0 (some body)]
  | .binding name value => do
    let value ← evaluate engine value
    Run.bind name value
    pure value

/-- The values of several expressions, from the left. -/
def evaluateAll (engine : Engine) : List Expr → Run (List Value)
  | [] => pure []
  | e :: rest => do
    let value ← evaluate engine e
    let values ← evaluateAll engine rest
    pure (value :: values)

/-- The answer of a chain of comparisons whose first operand is known. Operands after a comparison
that fails are not evaluated. -/
def evaluateChain (engine : Engine) (left : Value) : List Comparator → List Expr → Run Value
  | [comparator], [e] => do
    let right ← evaluate engine e
    Run.lift (compare engine comparator left right)
  | comparator :: comparators, e :: rest => do
    let right ← evaluate engine e
    let answer ← Run.lift (compare engine comparator left right)
    if ← Run.lift (truth engine answer) then evaluateChain engine right comparators rest
    else pure answer
  | _, _ => pure (.bool true)

end

/-- The value of an expression that may be left out. -/
def evaluateOption (engine : Engine) : Option Expr → Run (Option Value)
  | none => pure none
  | some e => do pure (some (← evaluate engine e))

/-! ## Imports -/

/-- What an import statement of the frame's unit gets. -/
def importInto (engine : Engine) (name : String) (wanted : List String) (level : Nat) :
    Run Value := do
  let m ← Run.home
  let name ← Run.known name
  Run.lift (Import.importModule engine m.owner m.names name wanted level)

/-- The modules of an import statement are bound, each under its name or the first part of it. -/
def importModules (engine : Engine) : List (String × Option String) → Run Unit
  | [] => pure ()
  | (name, as_) :: rest => do
    let value ← importInto engine name [] 0
    match as_ with
    | none => Run.bind (UnitName.top name) value
    | some id => do
      let inner ← (pieces '.' name).tail.foldlM
        (fun value part => do Run.lift (importedName engine value (← Run.known part))) value
      Run.bind id inner
    importModules engine rest

/-- Names taken out of a module are bound. -/
def bindNames (engine : Engine) (value : Value) : List (String × Option String) → Run Unit
  | [] => pure ()
  | (name, as_) :: rest => do
    let found ← Run.lift (importedName engine value (← Run.known name))
    Run.bind (as_.getD name) found
    bindNames engine value rest

/-- Names of a value are bound to their values. -/
def bindAttributes (engine : Engine) (value : Value) (names : List String) : Run Unit :=
  names.forM fun name => do Run.bind name (← Run.lift (attributeOf engine value name))

/-- The names in a list from a place on are bound to the attributes of a value, at most `limit`. -/
def bindOffered (engine : Engine) (value listed : Value) : Nat → Nat → Run Unit
  | 0, _ => pure ()
  | limit + 1, place => do
    match ← Run.lift (offeredAt engine listed place) with
    | none => pure ()
    | some found => do
      let name ← Run.lift (offeredName engine value found)
      bindAttributes engine value [name]
      bindOffered engine value listed limit (place + 1)

/-- All names that a value offers are bound. -/
def bindAll (engine : Engine) (value : Value) : Run Unit := do
  match value, ← Run.lift (attributeOf? engine value "__all__") with
  | _, some listed => bindOffered engine value listed itemLimit 0
  | value, none => do bindAttributes engine value (← Run.lift (publicNames value))

/-- The effect of an import statement. -/
def runImport (engine : Engine) : Import → Run Unit
  | .modules wanted => importModules engine wanted
  | .names level source wanted => do
    let value ← importInto engine source (wanted.map (·.1)) level
    if wanted.any (·.1 = "*") then bindAll engine value else bindNames engine value wanted

/-! ## Statements -/

/-- Whether a handler for a value handles a failure; a tuple stands for each of its items. -/
def handles (value : Value) (failure : Failure) : Action Bool := do
  let kinds ← match ← Action.object? value with
    | some (.tuple items) => pure items
    | _ => pure [value]
  kinds.foldlM (fun found kind =>
    match kind with
    | .exceptionType kind => pure (found || failure.isKindOf kind)
    | _ =>
      wrongType "catching classes that do not inherit from BaseException is not allowed") false

/-- Whether a pattern matches a value; a capture binds it. -/
def matchesPattern (engine : Engine) (pattern : Pattern) (value : Value) : Run Bool :=
  match pattern with
  | .anything => pure true
  | .capture name => do
    Run.bind name value
    pure true
  | .constant (.whole n) => Run.lift (isEqual engine value (.whole n))
  | .constant (.text s) => Run.lift (isEqual engine value (.text s))
  | .constant c => pure (value = .ofConstant 0 c)

/-- The type that the body of a type definition has left. -/
def newType (name : String) (own : List (String × Value)) : Action Value := do
  let own := if (lookupEntry "__doc__" own).isSome then own else own ++ [("__doc__", .none)]
  match (lookupEntry "__qualname__" own).getD .none with
  | .text fullName _ =>
    Action.newObject (.type { name, fullName, members := own.filter (·.1 != "__qualname__") })
  | other => do wrongType ("type __qualname__ must be a str, not " ++ (← kindOf other))

mutual

/-- The effect of statements: the value that a function is left with, if it is left. -/
def executeAll (engine : Engine) : List Statement → Run (Option Value)
  | [] => pure none
  | statement :: rest => do
    match ← execute engine statement with
    | some value => pure (some value)
    | none => executeAll engine rest

/-- The effect of a statement. -/
def execute (engine : Engine) : Statement → Run (Option Value)
  | .expression value => do
    let _ ← evaluate engine value
    pure none
  | .assign targets value => do
    let value ← evaluate engine value
    targets.forM fun name => Run.bind name value
    pure none
  | .annotate name type value => do
    match ← evaluateOption engine value with
    | some value => Run.bind name value
    | none => pure ()
    if (← get).frame.kind != .function then
      let _ ← evaluate engine type
    pure none
  | .pass | .leaveLoop .. => pure none
  | .leaveFunction _ _ value => do
    pure (some ((← evaluateOption engine value).getD .none))
  | .raise value => do
    match ← evaluateOption engine value, (← get).frame.handled with
    | some value, _ => throw (← Run.lift (thrown engine value))
    | none, some failure => throw failure
    | none, none => Run.exception "RuntimeError" "No active exception to reraise"
  | .assertion _ test message => do
    let value ← evaluate engine test
    if ← Run.lift (truth engine value) then pure none
    else
      let given ← evaluateOption engine message
      let made ← Run.lift (newException engine "AssertionError" given.toList)
      throw (← Run.lift (thrown engine made))
  | .importing _ what => do
    runImport engine what
    pure none
  | .function name parameters decorators body => do
    let wrappers ← evaluateAll engine decorators
    let f ← newFunction name parameters body
    let wrapped ← wrappers.foldrM (fun wrapper f => Run.lift (engine.call wrapper [f])) f
    Run.bind name wrapped
    pure none
  | .type name body => do
    let frame := (← get).frame
    let fullName := frame.fullName name
    let place ← Run.lookup "__name__"
    let documented := match documentation? body with
      | some text => [("__doc__", Value.text text)]
      | none => []
    let (_, inner) ← Run.inFrame
      { home := frame.home, kind := .type, path := fullName ++ ".", owner := name
        own := [("__module__", place), ("__qualname__", .text fullName)] ++ documented }
      (executeAll engine body)
    let made ← Run.lift (newType name inner.own)
    Run.bind name made
    pure none
  | .branch test body otherwise => do
    let value ← evaluate engine test
    if ← Run.lift (truth engine value) then executeAll engine body else executeAll engine otherwise
  | .attempt body handlers => do
    match ← Run.attempt (executeAll engine body) with
    | .ok result => pure result
    | .error failure => Run.handling failure (handle engine failure handlers)
  | .choose subject cases => do
    let value ← evaluate engine subject
    choose engine value cases
  | .within managers _ => do
    match managers with
    | [] => pure none
    | (manager, _) :: _ => do
      let value ← evaluate engine manager
      Run.exception "TypeError"
        ("'" ++ (← Run.lift (kindOf value)) ++
          "' object does not support the context manager protocol")

/-- The effect of the first handler that handles a failure; without one the failure goes on. -/
def handle (engine : Engine) (failure : Failure) : List Handler → Run (Option Value)
  | [] => throw failure
  | .mk none body :: _ => executeAll engine body
  | .mk (some kind) body :: rest => do
    let value ← evaluate engine kind
    if ← Run.lift (handles value failure) then executeAll engine body
    else handle engine failure rest

/-- The effect of the first case that matches a value. -/
def choose (engine : Engine) (value : Value) : List Case → Run (Option Value)
  | [] => pure none
  | .mk pattern body :: rest => do
    if ← matchesPattern engine pattern value then executeAll engine body
    else choose engine value rest

end

/-! ## Calls -/

/-- The refusal of a call with too few or too many arguments. -/
def wrongArguments (f : Function) (given : Nat) : Failure :=
  let expected := f.parameters.length
  let message :=
    if given < expected then
      let missing := f.parameters.drop given
      "() missing " ++ showNat missing.length ++ " required positional argument" ++
        (if missing.length = 1 then "" else "s") ++ ": " ++ quoteInWords missing
    else
      "() takes " ++ showNat expected ++ " positional argument" ++ (if expected = 1 then "" else "s") ++
        " but " ++ showNat given ++ (if given = 1 then " was" else " were") ++ " given"
  .exception "TypeError" (f.fullName ++ message)

/-- The body of a function runs in a frame that binds its parameters. -/
def runFunction (engine : Engine) (f : Function) (arguments : List Value) : Action Value :=
  if arguments.length ≠ f.parameters.length then throw (wrongArguments f arguments.length)
  else do
    let frame : Frame :=
      { home := f.home, kind := .function, path := f.fullName ++ ".<locals>.", owner := f.owner
        locals := (boundNames f.body).map (privateName f.owner)
        own := f.parameters.zip arguments }
    let result ← Run.start frame (executeAll engine f.body)
    pure (result.getD .none)

/-- A new object of a type that is not set up yet. The type may say how it is made; a type that says
neither this nor how its objects are set up takes no arguments. -/
def newInstance (engine : Engine) (type : ObjectId) (d : TypeDefinition) (arguments : List Value) :
    Action Value := do
  match lookupEntry "__new__" d.members with
  | some operation => engine.call operation (.object type :: arguments)
  | none =>
    if arguments.isEmpty || (lookupEntry "__init__" d.members).isSome then
      Action.newObject (.made type [])
    else wrongType (clipped 200 d.name ++ "() takes no arguments")

/-- A new object of a type, set up as the type says. -/
def instantiate (engine : Engine) (type : ObjectId) (d : TypeDefinition) (arguments : List Value) :
    Action Value := do
  let made ← newInstance engine type d arguments
  if (← typeOf made) = .object type then
    match ← special? engine made "__init__" with
    | none => pure made
    | some setUp => do
      match ← setUp arguments with
      | .none => pure made
      | other => do
        wrongType ("__init__() should return None, not '" ++ clipped 200 (← kindOf other) ++ "'")
  else pure made

/-- The result of a method of the values that every script has. -/
def callMethod (engine : Engine) (m : Method) (arguments : List Value) : Action Value := do
  match m, arguments with
  | .upper (.text s _), [] => Action.newText (upperCase s)
  | .lower (.text s _), [] => Action.newText (lowerCase s)
  | .append id, [value] => do
    Action.changeObject id fun o =>
      match o with
      | .list items => .list (items ++ [value])
      | o => o
    pure .none
  | .load id, [] => do pure (.module (← engine.load id))
  | .loadUnit id, [.text name _] => Import.loadUnit engine.load id name
  | .upper _, given =>
    wrongType ("str.upper() takes no arguments (" ++ showNat given.length ++ " given)")
  | .lower _, given =>
    wrongType ("str.lower() takes no arguments (" ++ showNat given.length ++ " given)")
  | .append _, given =>
    wrongType ("list.append() takes exactly one argument (" ++ showNat given.length ++ " given)")
  | .load _, given =>
    wrongType ("LoadingContext.load() takes 1 positional argument but " ++
      showNat (given.length + 1) ++ " were given")
  | .loadUnit _, given =>
    if given.isEmpty then
      wrongType "LoadingContext.load_unit() missing 1 required positional argument: 'name'"
    else
      wrongType ("LoadingContext.load_unit() takes 2 positional arguments but " ++
        showNat (given.length + 1) ++ " were given")

/-- The result of writing values as JSON. -/
def callDumps (arguments : List Value) : Action Value := do
  match arguments with
  | [value] => do Action.newText (← json value)
  | [] => wrongType "dumps() missing 1 required positional argument: 'obj'"
  | given =>
    wrongType ("dumps() takes 1 positional argument but " ++ showNat given.length ++ " were given")

/-- The refusal of a call of what cannot be called. -/
def uncallable (value : Value) : Action α := do
  wrongType ("'" ++ clipped 200 (← kindOf value) ++ "' object is not callable")

/-- The result of a call of an object. -/
def callObject (engine : Engine) (id : ObjectId) (arguments : List Value) : Action Value := do
  match ← Action.object id with
  | .function f => runFunction engine f arguments
  | .bound f self => engine.call f (self :: arguments)
  | .method m => callMethod engine m arguments
  | .type d => instantiate engine id d arguments
  | .made _ _ =>
    match ← special? engine (.object id) "__call__" with
    | some operation => operation arguments
    | none => uncallable (.object id)
  | _ => uncallable (.object id)

/-- The result of a call. -/
def call (engine : Engine) (callee : Value) (arguments : List Value) : Action Value :=
  match callee with
  | .object id => callObject engine id arguments
  | .exceptionType kind => newException engine kind arguments
  | .builtinType name => callType engine name arguments
  | .builtinFunction name => callFunction engine name arguments
  | .dumps => callDumps arguments
  | .importer context => callImporter engine context arguments
  | .thing "Quitter" _ => do
    let made ← newException engine "SystemExit" arguments
    throw (← thrown engine made)
  | .thing kind name =>
    if ["type", "function", Library.builtinKind, "_Printer", "_Helper"].contains kind then
      Action.exception "NotImplementedError" (name ++ " cannot be called here")
    else uncallable callee
  | callee => uncallable callee

end UnitFoundry.Script
