import UnitFoundry.Raised
import UnitFoundry.Script.Syntax
import UnitFoundry.Text.Quoted

/-!
# Values of scripts

What a script computes with. A value is either complete in itself, such as a number, or the number
of something that is kept elsewhere: a module, a context or an object. Two values are one and the
same exactly when they are equal here, so that whatever can be told apart has a number, and numbers
and texts say which copy they are.

* `Copy` — which of several equal numbers or texts a value is;
* `Value` — the values;
* `Object` — what can be made by a script: lists, functions, types, exceptions and the like.
-/

namespace UnitFoundry.Script

open UnitFoundry.Text

/-- The number of the context of a unit. -/
abbrev ContextId := Nat

/-- The number of the module of a unit. -/
abbrev ModuleId := Nat

/-- The number of an object. -/
abbrev ObjectId := Nat

/-! ## Modules that are no units -/

/-- The modules that every script can import besides units. -/
inductive Library where
  | json
  | os
  | path
  | math
  | main
  deriving Repr, DecidableEq

namespace Library

/-- The name a module calls itself by. -/
def name : Library → String
  | json => "json"
  | os => "os"
  | path => "posixpath"
  | math => "math"
  | main => "__main__"

/-- The module that is imported under a name. -/
def ofName? : String → Option Library
  | "json" => some json
  | "os" => some os
  | "os.path" => some path
  | "posixpath" => some path
  | "math" => some math
  | "__main__" => some main
  | _ => none

/-- Whether a module may have modules below it. -/
def isPackage : Library → Bool
  | json => true
  | _ => false

/-- Whether a module can be found without being imported. -/
def hasSpec : Library → Bool
  | main => false
  | _ => true

/-- The file a module was read from, if it was read from one. -/
def file? : Library → Option String
  | json => some "/usr/lib/python3.11/json/__init__.py"
  | os => some "/usr/lib/python3.11/os.py"
  | path => some "/usr/lib/python3.11/posixpath.py"
  | _ => none

end Library

/-! ## Values -/

/-- Which of several equal numbers or texts a value is. -/
inductive Copy where
  /-- The only one: small numbers, words and single characters are never kept twice. -/
  | shared
  /-- The one that stands in the source of a unit. -/
  | constant (home : ModuleId)
  /-- One that was made while a script ran. -/
  | fresh (serial : Nat)
  deriving Repr, DecidableEq

/-- A value. -/
inductive Value where
  | none
  /-- What an operation answers that does not know its operands. -/
  | notImplemented
  | bool (value : Bool)
  | whole (value : Int) (copy : Copy := .shared)
  | text (value : String) (copy : Copy := .shared)
  /-- The module of a unit. -/
  | module (id : ModuleId)
  | library (which : Library)
  | object (id : ObjectId)
  | exceptionType (kind : String)
  /-- A type that every script has. -/
  | builtinType (name : String)
  /-- A function that every script has. -/
  | builtinFunction (name : String)
  /-- The function that writes a value as JSON. -/
  | dumps
  /-- Something of a kind that scripts can reach and pass on, but not use. -/
  | thing (kind name : String)
  /-- The function that import statements of a context's unit call. -/
  | importer (context : ContextId)
  | context (id : ContextId)
  /-- The file with the artifact of a context. -/
  | artifact (context : ContextId)
  deriving Repr, DecidableEq, Inhabited

/-- Whether the whole numbers equal to a number are never kept twice. -/
def isSmall (n : Int) : Bool := -5 ≤ n && n ≤ 256

/-- Whether a text is empty or a character of the first 256. -/
def isTiny (s : String) : Bool :=
  match s.toList with
  | [] => true
  | [c] => c.toNat < 256
  | _ => false

/-- Whether a text looks like a name without letters beyond ASCII. -/
def isWord (s : String) : Bool := s.toList.all fun c => c.isAlphanum || c = '_'

namespace Value

/-- A number or text as it stands in the source of a unit. -/
def written (home : ModuleId) : Value → Value
  | whole n _ => whole n (if isSmall n then .shared else .constant home)
  | text s _ => text s (if isTiny s || isWord s then .shared else .constant home)
  | value => value

/-- The value of a constant in the source of a unit. -/
def ofConstant (home : ModuleId) : Constant → Value
  | .none => none
  | .bool value => bool value
  | .whole value => written home (whole value)
  | .text value => written home (text value)

/-- The whole number that a value counts as. -/
def asWhole? : Value → Option Int
  | bool value => some (if value then 1 else 0)
  | whole value _ => some value
  | _ => Option.none

end Value

/-! ## Objects -/

/-- A function of a script. -/
structure Function where
  name : String
  /-- The name with the names of the types around it. -/
  fullName : String
  parameters : List String
  body : List Statement
  /-- The type in whose body it stands, or nothing. -/
  owner : String := ""
  /-- The module whose names it uses. -/
  home : ModuleId
  /-- What that module was called when the function was made. -/
  place : Value := .none
  deriving Inhabited

/-- A type of a script: its names and the names that its body bound. -/
structure TypeDefinition where
  name : String
  fullName : String
  members : List (String × Value)
  deriving Inhabited

/-- An operation together with the value it was taken from. -/
inductive Method where
  | upper (text : Value)
  | lower (text : Value)
  | append (list : ObjectId)
  /-- The loading of a context. -/
  | load (context : ContextId)
  /-- The loading of a module by its name, as a context finds it. -/
  | loadUnit (context : ContextId)
  deriving Repr, DecidableEq

/-- What can be made by a script. -/
inductive Object where
  /-- An object of the most general type, which can only be told apart from others. -/
  | blank
  | list (items : List Value)
  | tuple (items : List Value)
  /-- Values by names that are texts. -/
  | record (entries : List (String × Value))
  /-- Names bundled to stand for a package. -/
  | bundle (entries : List (String × Value))
  | function (f : Function)
  | type (definition : TypeDefinition)
  /-- An object of a type of a script, with names of its own. -/
  | made (type : ObjectId) (own : List (String × Value))
  /-- An exception with its arguments, and what its message tells besides. -/
  | exception (kind : String) (arguments details : List Value)
  /-- A function together with the object it was taken from. -/
  | bound (function self : Value)
  | method (m : Method)
  deriving Inhabited

/-! ## Names that every script has -/

/-- The types that every script has, apart from exceptions. -/
def builtinTypes : List String :=
  ["bool", "bytearray", "bytes", "classmethod", "complex", "dict", "enumerate", "filter", "float",
   "frozenset", "int", "list", "map", "memoryview", "object", "property", "range", "reversed", "set",
   "slice", "staticmethod", "str", "super", "tuple", "type", "zip"]

/-- The functions that every script has. -/
def builtinFunctions : List String :=
  ["__build_class__", "abs", "aiter", "all", "anext", "any", "ascii", "bin", "breakpoint", "callable",
   "chr", "compile", "delattr", "dir", "divmod", "eval", "exec", "format", "getattr", "globals",
   "hasattr", "hash", "hex", "id", "input", "isinstance", "issubclass", "iter", "len", "locals", "max",
   "min", "next", "oct", "open", "ord", "pow", "print", "repr", "round", "setattr", "sorted", "sum",
   "vars"]

/-- The other things that every script has, each with its kind. -/
def builtinThings : List (String × String) :=
  [("Ellipsis", "ellipsis"), ("copyright", "_Printer"), ("credits", "_Printer"),
   ("license", "_Printer"), ("exit", "Quitter"), ("quit", "Quitter"), ("help", "_Helper"),
   ("__builtins__", "dict")]

/-- The value of a name that every script has; imports belong to the unit's context. -/
def builtin? (context : ContextId) (name : String) : Option Value :=
  if name = "__import__" then some (.importer context)
  else if name = "NotImplemented" then some .notImplemented
  else if name = "__debug__" then some (.bool true)
  else if name = "EnvironmentError" || name = "IOError" then some (.exceptionType "OSError")
  else if isExceptionKind name then some (.exceptionType name)
  else if builtinTypes.contains name then some (.builtinType name)
  else if builtinFunctions.contains name then some (.builtinFunction name)
  else (builtinThings.lookup name).map fun kind => .thing kind name

end UnitFoundry.Script
