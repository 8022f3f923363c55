import UnitFoundry.Script.Engine
import UnitFoundry.Text.Numeral

/-!
# Texts of values

The text of a value, its quoted form and its form in JSON. Types of scripts may say what the text
and the quoted form of their objects are. A list inside itself is written as dots, and refused in
JSON.

* `quoted` — the form in which texts are quoted;
* `plain` — the text of a value; that of an exception is its message;
* `json` — the form in JSON;
* `worded` — a failure with its wording.
-/

namespace UnitFoundry.Script

open Text

/-- The failure of what is nested too deep. -/
def tooDeep (during : String := "") : Failure :=
  .exception "RecursionError" ("maximum recursion depth exceeded" ++ during)

/-- How deep the texts of values go. -/
def wordingDepth : Nat := 950

/-- A whole number in decimal, unless it has too many digits. -/
def wholeText (n : Int) : Action String :=
  if n.natAbs < tenTo digitLimit then pure (showInt n)
  else
    Action.exception "ValueError"
      ("Exceeds the limit (" ++ showNat digitLimit ++ " digits) for integer string conversion; use " ++
        "sys.set_int_max_str_digits() to increase the limit")

/-! ## Quoted forms -/

/-- Quoted forms as those of the items of a tuple. -/
def tupleText : List String → String
  | [one] => "(" ++ one ++ ",)"
  | texts => "(" ++ ", ".intercalate texts ++ ")"

/-- The name of a type as its quoted form gives it: with the place it was made at, if that is a name. -/
def typeText (d : TypeDefinition) : String :=
  match lookupEntry "__module__" d.members with
  | some (.text place _) => if place = "builtins" then d.fullName else place ++ "." ++ d.fullName
  | _ => d.fullName

/-- A text that an operation of a type gave, where nothing else will do. -/
def textOnly (operation : String) (value : Value) : Action String := do
  match value with
  | .text s _ => pure s
  | other =>
    Action.exception "TypeError"
      (operation ++ " returned non-string (type " ++ (← kindOf other) ++ ")")

/-- The quoted form of an object, given those of the values in it and of the value it was taken from.
An object inside itself is written as dots. -/
def quotedObject (engine : Engine) (form outer : Value → Action String) (isInside : Bool)
    (value : Value) (o : Object) : Action String := do
  let named (entries : List (String × Value)) : Action (List (String × String)) :=
    entries.mapM fun (name, value) => do pure (name, ← form value)
  match o with
  | .blank => pure "<object object>"
  | .list items =>
    if isInside then pure "[...]" else do pure ("[" ++ ", ".intercalate (← items.mapM form) ++ "]")
  | .tuple items => if isInside then pure "(...)" else do pure (tupleText (← items.mapM form))
  | .record entries =>
    if isInside then pure "\x7b...\x7d"
    else do
      let texts := (← named entries).map fun (name, text) => quote name ++ ": " ++ text
      pure ("\x7b" ++ ", ".intercalate texts ++ "\x7d")
  | .bundle entries =>
    if isInside then pure "namespace(...)"
    else do
      let texts := (← named entries).map fun (name, text) => name ++ "=" ++ text
      pure ("namespace(" ++ ", ".intercalate texts ++ ")")
  | .function f => pure ("<function " ++ f.fullName ++ ">")
  | .type d => pure ("<class " ++ quote (typeText d) ++ ">")
  | .made type _ => do
    match ← special? engine value "__repr__" with
    | some show_ => do textOnly "__repr__" (← show_ [])
    | none => do pure ("<" ++ typeText (← definition type) ++ " object>")
  | .exception kind arguments _ => do
    match ← arguments.mapM form with
    | [one] => pure (kind ++ "(" ++ one ++ ")")
    | texts => pure (kind ++ tupleText texts)
  | .bound f self => do
    let owner ← outer self
    let name ← match ← Action.object? f with
      | some (.function f) => pure f.fullName
      | _ => pure "dumps"
    pure ("<bound method " ++ name ++ " of " ++ owner ++ ">")
  | .method _ => pure "<built-in method>"

/-- The quoted form of a value inside some objects, with objects nested at most `depth` deep. -/
def quotedWithin (engine : Engine) : Nat → List ObjectId → Value → Action String
  | 0, _, _ => throw (tooDeep " while getting the repr of an object")
  | depth + 1, inside, value =>
    match value with
    | .none => pure "None"
    | .notImplemented => pure "NotImplemented"
    | .bool b => pure (if b then "True" else "False")
    | .whole n _ => wholeText n
    | .text s _ => pure (quote s)
    | .module id => do
      let m ← Action.module id
      let name ← quotedWithin engine depth inside ((m.get? "__name__").getD .none)
      let file ← quotedWithin engine depth inside ((m.get? "__file__").getD .none)
      pure ("<module " ++ name ++ " from " ++ file ++ ">")
    | .library which =>
      pure ("<module " ++ quote which.name ++
        (match which.file? with
          | some file => " from " ++ quote file
          | none => " (built-in)") ++
        ">")
    | .exceptionType name | .builtinType name | .thing "type" name =>
      pure ("<class " ++ quote name ++ ">")
    | .builtinFunction name | .thing "builtin_function_or_method" name =>
      pure ("<built-in function " ++ name ++ ">")
    | .thing "ellipsis" _ => pure "Ellipsis"
    | .context id => do pure ((← Action.context id).toText)
    | .artifact id => do pure ((← Action.context id).artifact.toText)
    | .object id => do
      quotedObject engine (quotedWithin engine depth (id :: inside)) (quotedWithin engine depth inside)
        (inside.contains id) value (← Action.object id)
    | other => do pure ("<" ++ (← kindOf other) ++ ">")

/-- The form of a value in which texts are quoted. -/
def quoted (engine : Engine) (value : Value) : Action String :=
  quotedWithin engine wordingDepth [] value

/-! ## Plain texts -/

/-- The last part of a path. -/
def fileName (path : String) : String := (pieces '/' path).getLastD path

/-- The message of a fault in a source, with the file and the line of its place. -/
def faultText (message : String) (details : List Value) : String :=
  let file := match details.head? with
    | some (.text path _) => some (fileName path)
    | _ => none
  let line := match details[1]? with
    | some (.whole n _) => some ("line " ++ showInt n)
    | _ => none
  match file.toList ++ line.toList with
  | [] => message
  | place => message ++ " (" ++ ", ".intercalate place ++ ")"

/-- The number of a character as an escape. -/
def characterEscape (c : Char) : String :=
  let n := c.toNat
  String.ofList ('\\' ::
    (if n < 0x100 then 'x' :: hexPadded 2 n
      else if n < 0x10000 then 'u' :: hexPadded 4 n
      else 'U' :: hexPadded 8 n))

/-- The characters of a text from one place to another as a message about them names them. -/
def charactersText (text : String) (start stop : Int) : String :=
  match text.toList[start.toNat]? with
  | some c =>
    if stop = start + 1 then
      "character '" ++ characterEscape c ++ "' in position " ++ showInt start
    else "characters in position " ++ showInt start ++ "-" ++ showInt (stop - 1)
  | none => "characters in position " ++ showInt start ++ "-" ++ showInt (stop - 1)

/-- The text of a system error with a number, a reason and files. -/
def systemErrorText (text quotedForm : Value → Action String) (number reason : Value)
    (files : List Value) : Action String := do
  let start := "[Errno " ++ (← text number) ++ "] " ++ (← text reason)
  match files with
  | [file, .none] => do pure (start ++ ": " ++ (← quotedForm file))
  | [file, other] => do pure (start ++ ": " ++ (← quotedForm file) ++ " -> " ++ (← quotedForm other))
  | _ => pure start

/-- The text of an exception of a kind, given the ways to get the text and the quoted form of a value. -/
def exceptionText (text quotedForm : Value → Action String) (kind : String)
    (arguments details : List Value) : Action String := do
  let usual : Action String := do
    match arguments with
    | [] => pure ""
    | [one] => if isKind kind "KeyError" then quotedForm one else text one
    | several => do pure (tupleText (← several.mapM quotedForm))
  let first : Action String := text (arguments.head?.getD .none)
  if isKind kind "SyntaxError" then do pure (faultText (← first) details)
  else if isKind kind "BaseExceptionGroup" then do
    pure ((← first) ++ " (" ++ showNat details.length ++ " sub-exception" ++
      (if details.length = 1 then "" else "s") ++ ")")
  else
    match kind, arguments, details with
    | "UnicodeEncodeError", [.text encoding _, .text s _, start, stop, .text reason _], _ =>
      pure ("'" ++ encoding ++ "' codec can't encode " ++
        charactersText s (start.asWhole?.getD 0) (stop.asWhole?.getD 0) ++ ": " ++ reason)
    | "UnicodeTranslateError", [.text s _, start, stop, .text reason _], _ =>
      pure ("can't translate " ++
        charactersText s (start.asWhole?.getD 0) (stop.asWhole?.getD 0) ++ ": " ++ reason)
    | _, _, number :: reason :: files => systemErrorText text quotedForm number reason files
    | _, _, _ => usual

/-- The text of a value, with exceptions nested at most `depth` deep. -/
def plainWithin (engine : Engine) : Nat → Value → Action String
  | 0, _ => throw (tooDeep " while getting the str of an object")
  | depth + 1, value => do
    match value, ← Action.object? value with
    | .text s _, _ => pure s
    | _, some (.made _ _) => do
      match ← special? engine value "__str__" with
      | some show_ => do textOnly "__str__" (← show_ [])
      | none => quoted engine value
    | _, some (.exception kind arguments details) =>
      exceptionText (plainWithin engine depth) (quoted engine) kind arguments details
    | _, _ => quoted engine value

/-- The text of a value. -/
def plain (engine : Engine) (value : Value) : Action String := plainWithin engine wordingDepth value

/-- What matters of the arguments of an exception once its message is settled. -/
def argumentOf : List Value → Argument
  | [] | [.none] => .absent
  | [.bool b] => .whole (if b then 1 else 0)
  | [.whole n _] => .whole n
  | _ => .something

/-- A failure with its wording. -/
def worded (engine : Engine) (failure : Failure) : Action Failure := do
  match failure with
  | .thrown kind id => do
    let message ← plain engine (.object id)
    let argument ← match ← Action.object id with
      | .exception _ arguments _ => pure (argumentOf arguments)
      | _ => pure .something
    pure (.raised { kind, message, argument })
  | failure => pure failure

/-! ## JSON -/

/-- A character of a text in JSON. -/
def jsonChar (c : Char) : List Char :=
  if c = '"' then ['\\', '"']
  else if c = '\\' then ['\\', '\\']
  else if c = '\n' then ['\\', 'n']
  else if c = '\r' then ['\\', 'r']
  else if c = '\t' then ['\\', 't']
  else if c = '\x08' then ['\\', 'b']
  else if c = '\x0c' then ['\\', 'f']
  else if 0x20 ≤ c.toNat && c.toNat ≤ 0x7E then [c]
  else if c.toNat < 0x10000 then '\\' :: 'u' :: hexPadded 4 c.toNat
  else
    let n := c.toNat - 0x10000
    ('\\' :: 'u' :: hexPadded 4 (0xD800 + n / 0x400)) ++
      ('\\' :: 'u' :: hexPadded 4 (0xDC00 + n % 0x400))

/-- A text in JSON. -/
def jsonText (s : String) : String := "\"" ++ String.ofList (s.toList.flatMap jsonChar) ++ "\""

/-- A value inside some objects in JSON, with objects nested at most `depth` deep. -/
def jsonWithin : Nat → List ObjectId → Value → Action String
  | 0, _, _ => throw (tooDeep " while encoding a JSON object")
  | depth + 1, inside, value =>
    let unknown : Action String := do
      Action.exception "TypeError"
        ("Object of type " ++ (← typeNameOf value) ++ " is not JSON serializable")
    match value with
    | .none => pure "null"
    | .bool b => pure (if b then "true" else "false")
    | .whole n _ => wholeText n
    | .text s _ => pure (jsonText s)
    | .object id => do
      let nested (act : Action String) : Action String :=
        if inside.contains id then Action.exception "ValueError" "Circular reference detected" else act
      let next (value : Value) : Action String := jsonWithin depth (id :: inside) value
      match ← Action.object id with
      | .list items | .tuple items => nested do
        pure ("[" ++ ", ".intercalate (← items.mapM next) ++ "]")
      | .record entries => nested do
        let texts ← entries.mapM fun (name, value) => do pure (jsonText name ++ ": " ++ (← next value))
        pure ("\x7b" ++ ", ".intercalate texts ++ "\x7d")
      | _ => unknown
    | _ => unknown

/-- A value in JSON. -/
def json (value : Value) : Action String := jsonWithin wordingDepth [] value

end UnitFoundry.Script
