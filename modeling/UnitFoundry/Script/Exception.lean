import UnitFoundry.Script.Arithmetic

/-!
# Making exceptions

An exception is made from arguments. Most kinds take any; a few look at them, refuse some, and keep
what their message tells besides.

* `newException` — an exception of a kind made from arguments;
* `thrown` — the failure that raises a value.
-/

namespace UnitFoundry.Script

open Text

/-- A refusal of arguments. -/
def wrongType (message : String) : Action α := Action.exception "TypeError" message

/-! ## System errors -/

/-- The kinds that numbers of system errors stand for. -/
def systemErrorKinds : List (Int × String) :=
  [(1, "PermissionError"), (2, "FileNotFoundError"), (3, "ProcessLookupError"),
   (4, "InterruptedError"), (10, "ChildProcessError"), (11, "BlockingIOError"),
   (13, "PermissionError"), (17, "FileExistsError"), (20, "NotADirectoryError"),
   (21, "IsADirectoryError"), (32, "BrokenPipeError"), (103, "ConnectionAbortedError"),
   (104, "ConnectionResetError"), (108, "BrokenPipeError"), (110, "TimeoutError"),
   (111, "ConnectionRefusedError"), (114, "BlockingIOError"), (115, "BlockingIOError")]

/-- A system error: with two to five arguments, the first is its number and the second its reason,
the third and the fifth are files, and a number may tell a kind. -/
def systemError (kind : String) (arguments : List Value) : Object :=
  match arguments with
  | number :: reason :: rest =>
    if 3 < rest.length then .exception kind arguments []
    else
      let named := number.asWhole?.bind fun n => systemErrorKinds.lookup n
      let kind := if kind = "OSError" then named.getD kind else kind
      match rest with
      | [] | .none :: _ => .exception kind arguments [number, reason]
      | file :: others =>
        if kind = "BlockingIOError" && file.asWhole?.isSome then
          .exception kind arguments [number, reason]
        else .exception kind [number, reason] [number, reason, file, others[1]?.getD .none]
  | _ => .exception kind arguments []

/-! ## Faults in sources -/

/-- A fault in a source; a second argument of two is a place: file, line, column and text, and
perhaps the line and the column of its end. -/
def faultException (engine : Engine) (kind : String) (arguments : List Value) : Action Object := do
  match arguments with
  | [_, place] => do
    let parts ← itemsOf engine place
    let count := showNat parts.length ++ " given)"
    if parts.length < 4 then wrongType ("function takes at least 4 arguments (" ++ count)
    else if 6 < parts.length then wrongType ("function takes at most 6 arguments (" ++ count)
    else if parts.length = 5 then
      wrongType "end_offset must be provided when end_lineno is provided"
    else pure (.exception kind arguments (parts.take 2))
  | arguments => pure (.exception kind arguments [])

/-! ## Faults in texts -/

/-- The kinds of the arguments that faults in texts take. -/
def textFaultShape : String → Option String
  | "UnicodeDecodeError" => some "tbiit"
  | "UnicodeEncodeError" => some "ttiit"
  | "UnicodeTranslateError" => some "tiit"
  | _ => none

/-- Arguments are looked at one by one: some have to be texts, some whole numbers. -/
def checkShape (engine : Engine) : Nat → List Char → List Value → Action Unit
  | place, 't' :: shape, value :: rest => do
    match value with
    | .text _ _ => checkShape engine (place + 1) shape rest
    | other => do
      wrongType ("argument " ++ showNat place ++ " must be str, not " ++ (← kindOf other))
  | place, 'i' :: shape, value :: rest => do
    let _ ← indexOnly engine value
    checkShape engine (place + 1) shape rest
  | place, _ :: shape, _ :: rest => checkShape engine (place + 1) shape rest
  | _, _, _ => pure ()

/-- A fault in a text. No script has bytes, so those are never among the arguments. -/
def textFault (engine : Engine) (kind shape : String) (arguments : List Value) : Action Object := do
  if arguments.length != shape.length then
    wrongType ("function takes exactly " ++ showNat shape.length ++ " arguments (" ++
      showNat arguments.length ++ " given)")
  checkShape engine 1 shape.toList arguments
  if kind = "UnicodeDecodeError" then
    wrongType ("a bytes-like object is required, not '" ++
      (← kindOf (arguments[1]?.getD .none)) ++ "'")
  pure (.exception kind arguments [])

/-! ## Groups -/

/-- The kinds of the exceptions among the members of a group, which holds nothing else. -/
def memberKinds : Nat → List Value → Action (List String)
  | _, [] => pure []
  | place, value :: rest => do
    match ← Action.object? value with
    | some (.exception kind _ _) => do pure (kind :: (← memberKinds (place + 1) rest))
    | _ =>
      Action.exception "ValueError"
        ("Item " ++ showNat place ++ " of second argument (exceptions) is not an exception")

/-- Whether a value counts as a sequence. -/
def isSequence (value : Value) : Action Bool := do
  match value, ← Action.object? value with
  | .text _ _, _ => pure true
  | _, some (.list _) | _, some (.tuple _) => pure true
  | value, _ => do pure (← member? value "__getitem__").isSome

/-- A group of the exceptions in a sequence. -/
def groupOf (engine : Engine) (kind : String) (arguments : List Value) (members : Value) :
    Action Object := do
  if !(← isSequence members) then wrongType "second argument (exceptions) must be a sequence"
  else
    let items ← itemsOf engine members
    if items.isEmpty then
      Action.exception "ValueError" "second argument (exceptions) must be a non-empty sequence"
    else
      let kinds ← memberKinds 0 items
      let areOrdinary := kinds.all fun kind => isKind kind "Exception"
      if areOrdinary then pure (.exception "ExceptionGroup" arguments items)
      else if kind = "ExceptionGroup" then
        wrongType "Cannot nest BaseExceptions in an ExceptionGroup"
      else pure (.exception kind arguments items)

/-- A group of exceptions: a message and members. -/
def exceptionGroup (engine : Engine) (kind : String) (arguments : List Value) : Action Object := do
  match arguments with
  | [.text _ _, members] => groupOf engine kind arguments members
  | [.none, _] => wrongType "BaseExceptionGroup.__new__() argument 1 must be str, not None"
  | [other, _] => do
    wrongType ("BaseExceptionGroup.__new__() argument 1 must be str, not " ++ (← kindOf other))
  | arguments =>
    wrongType ("BaseExceptionGroup.__new__() takes exactly 2 arguments (" ++
      showNat arguments.length ++ " given)")

/-! ## All kinds -/

/-- An exception of a kind made from arguments. -/
def newException (engine : Engine) (kind : String) (arguments : List Value) : Action Value := do
  let made ←
    if isKind kind "OSError" then pure (systemError kind arguments)
    else if isKind kind "SyntaxError" then faultException engine kind arguments
    else if isKind kind "BaseExceptionGroup" then exceptionGroup engine kind arguments
    else
      match textFaultShape kind with
      | some shape => textFault engine kind shape arguments
      | none => pure (.exception kind arguments [])
  Action.newObject made

/-- The failure that raises a value. -/
def thrown (engine : Engine) (value : Value) : Action Failure := do
  let made ← match value with
    | .exceptionType kind => newException engine kind []
    | value => pure value
  match made, ← Action.object? made with
  | .object id, some (.exception kind _ _) => pure (.thrown kind id)
  | _, _ => pure (.exception "TypeError" "exceptions must derive from BaseException")

end UnitFoundry.Script
