import UnitFoundry.Text.Decimal

/-!
# Raised exceptions

An exception has a kind and a message. Kinds form a tree; all but the ways of leaving a program
descend from the kind `Exception`.

* `Raised` — an exception;
* `isKind` — whether one kind descends from another;
* `isOrdinary` — whether an exception can be handled as a failure.
-/

namespace UnitFoundry

/-- The kinds of exceptions with a kind that each one descends from; a kind may have several. -/
def exceptionParents : List (String × String) :=
  [("SystemExit", "BaseException"), ("KeyboardInterrupt", "BaseException"),
   ("GeneratorExit", "BaseException"), ("Exception", "BaseException"),
   ("BaseExceptionGroup", "BaseException"), ("ExceptionGroup", "BaseExceptionGroup"),
   ("ExceptionGroup", "Exception"),
   ("StopIteration", "Exception"), ("StopAsyncIteration", "Exception"),
   ("ArithmeticError", "Exception"), ("FloatingPointError", "ArithmeticError"),
   ("OverflowError", "ArithmeticError"), ("ZeroDivisionError", "ArithmeticError"),
   ("AssertionError", "Exception"), ("AttributeError", "Exception"), ("BufferError", "Exception"),
   ("EOFError", "Exception"), ("ImportError", "Exception"), ("ModuleNotFoundError", "ImportError"),
   ("LookupError", "Exception"), ("IndexError", "LookupError"), ("KeyError", "LookupError"),
   ("MemoryError", "Exception"), ("NameError", "Exception"), ("UnboundLocalError", "NameError"),
   ("OSError", "Exception"), ("BlockingIOError", "OSError"), ("ChildProcessError", "OSError"),
   ("ConnectionError", "OSError"), ("BrokenPipeError", "ConnectionError"),
   ("ConnectionAbortedError", "ConnectionError"), ("ConnectionRefusedError", "ConnectionError"),
   ("ConnectionResetError", "ConnectionError"), ("FileExistsError", "OSError"),
   ("FileNotFoundError", "OSError"), ("InterruptedError", "OSError"),
   ("IsADirectoryError", "OSError"), ("NotADirectoryError", "OSError"),
   ("PermissionError", "OSError"), ("ProcessLookupError", "OSError"), ("TimeoutError", "OSError"),
   ("ReferenceError", "Exception"), ("RuntimeError", "Exception"),
   ("NotImplementedError", "RuntimeError"), ("RecursionError", "RuntimeError"),
   ("SyntaxError", "Exception"), ("IndentationError", "SyntaxError"),
   ("TabError", "IndentationError"), ("SystemError", "Exception"), ("TypeError", "Exception"),
   ("ValueError", "Exception"), ("UnicodeError", "ValueError"),
   ("UnicodeDecodeError", "UnicodeError"), ("UnicodeEncodeError", "UnicodeError"),
   ("UnicodeTranslateError", "UnicodeError"), ("ValidationError", "ValueError"),
   ("Warning", "Exception"), ("BytesWarning", "Warning"), ("DeprecationWarning", "Warning"),
   ("EncodingWarning", "Warning"), ("FutureWarning", "Warning"), ("ImportWarning", "Warning"),
   ("PendingDeprecationWarning", "Warning"), ("ResourceWarning", "Warning"),
   ("RuntimeWarning", "Warning"), ("SyntaxWarning", "Warning"), ("UnicodeWarning", "Warning"),
   ("UserWarning", "Warning"), ("YAMLError", "Exception")]

/-- A kind and the kinds it descends from in at most `steps` steps. -/
def ancestorsWithin : Nat → String → List String
  | 0, kind => [kind]
  | steps + 1, kind =>
    kind :: ((exceptionParents.filter (·.1 = kind)).flatMap fun (_, parent) =>
      ancestorsWithin steps parent)

/-- Whether a kind is another one or descends from it. -/
def isKind (kind ancestor : String) : Bool := (ancestorsWithin 6 kind).contains ancestor

/-- Whether a name is the name of an exception kind that programs can use. -/
def isExceptionKind (name : String) : Bool :=
  name = "BaseException" ||
    (exceptionParents.any (·.1 = name) && name != "ValidationError" && name != "YAMLError")

/-- What an exception was raised with, as far as it matters after its message has been made. -/
inductive Argument where
  | absent
  | whole (n : Int)
  | something
  deriving Repr, DecidableEq

/-- An exception. -/
structure Raised where
  kind : String
  message : String
  argument : Argument := .something
  deriving Repr, DecidableEq

/-- The kinds that do not descend from `Exception`. -/
def leavingKinds : List String :=
  ["BaseException", "BaseExceptionGroup", "SystemExit", "KeyboardInterrupt", "GeneratorExit"]

/-- Whether an exception is a failure that can be handled, and no way of leaving the program. -/
def Raised.isOrdinary (r : Raised) : Bool := !leavingKinds.contains r.kind

end UnitFoundry
