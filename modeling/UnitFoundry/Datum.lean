import UnitFoundry.Text.Binary64
import UnitFoundry.Text.Quoted
import UnitFoundry.Text.Utf8

/-!
# Loosely typed data

What a settings file, an environment or a caller supplies before it has been checked. The keys of a
mapping are data themselves; a record is a mapping whose keys are texts.

* `Datum` — the data;
* `isEmpty` — whether a datum counts as nothing given;
* `kindName`, `show` — the name of its kind and its text, as error messages give them;
* `record`, `fields` — mappings from texts, and the entries of a mapping whose keys are texts.
-/

namespace UnitFoundry

/-- A loosely typed value. -/
inductive Datum where
  | null
  | bool (value : Bool)
  | whole (value : Int)
  | real (value : Binary64)
  | text (value : String)
  | bytes (data : UnitFoundry.Text.Bytes)
  | list (items : List Datum)
  | tuple (items : List Datum)
  | set (items : List Datum)
  | mapping (entries : List (Datum × Datum))
  /-- A value of another kind, of which only the name of the kind, the same with the name of its
  home before it, and its text matter. -/
  | other (kind fullKind shown : String)
  deriving Repr, Inhabited

namespace Datum

open UnitFoundry.Text

/-- Whether a datum counts as nothing given. -/
def isEmpty : Datum → Bool
  | null => true
  | bool value => !value
  | whole value => value = 0
  | real value => value.isFinite && value.significand = 0
  | text value => value.isEmpty
  | bytes data => data.isEmpty
  | list items | tuple items | set items => items.isEmpty
  | mapping entries => entries.isEmpty
  | other .. => false

/-- The name of the kind of a datum. -/
def kindName : Datum → String
  | null => "NoneType"
  | bool _ => "bool"
  | whole _ => "int"
  | real _ => "float"
  | text _ => "str"
  | bytes _ => "bytes"
  | list _ => "list"
  | tuple _ => "tuple"
  | set _ => "set"
  | mapping _ => "dict"
  | other kind _ _ => kind

/-- The name of the kind of a datum after the name of its home, if it has one. -/
def fullKindName : Datum → String
  | other _ fullKind _ => fullKind
  | d => d.kindName

/-- The text of a tuple whose items have given texts: a single item is followed by a comma. -/
def showTuple : List String → String
  | [one] => "(" ++ one ++ ",)"
  | items => "(" ++ ", ".intercalate items ++ ")"

mutual

/-- The text of a datum. -/
def «show» : Datum → String
  | null => "None"
  | bool value => if value then "True" else "False"
  | whole value => showInt value
  | real value => value.toText
  | text value => quote value
  | bytes data => quoteBytes data
  | list items => "[" ++ ", ".intercalate (showItems items) ++ "]"
  | tuple items => showTuple (showItems items)
  | set [] => "set()"
  | set items => "\x7b" ++ ", ".intercalate (showItems items) ++ "\x7d"
  | mapping entries => "\x7b" ++ ", ".intercalate (showEntries entries) ++ "\x7d"
  | other _ _ shown => shown

/-- The texts of several data. -/
def showItems : List Datum → List String
  | [] => []
  | item :: items => item.show :: showItems items

/-- The texts of the entries of a mapping. -/
def showEntries : List (Datum × Datum) → List String
  | [] => []
  | (key, value) :: entries => (key.show ++ ": " ++ value.show) :: showEntries entries

end

/-! ## Keys -/

/-- The number that a datum counts as; a flag counts as zero or one. -/
def number? : Datum → Option Rat
  | bool value => some (if value then 1 else 0)
  | whole value => some value
  | real value => value.toRat?
  | _ => none

/-- Whether two data are one and the same key of a mapping: numbers are compared by value. -/
def sameKey (a b : Datum) : Bool :=
  match a.number?, b.number? with
  | some m, some n => m = n
  | none, none =>
    match a, b with
    | null, null => true
    | real a, real b => a = b && a != Binary64.undefined
    | text a, text b => a = b
    | bytes a, bytes b => a = b
    | other kind _ a, other kind' _ b => kind = kind' && a = b
    | _, _ => false
  | _, _ => false

/-- Entries with one key set: in its place if it is there, else at the end. -/
def setKey (key value : Datum) : List (Datum × Datum) → List (Datum × Datum)
  | [] => [(key, value)]
  | (k, v) :: rest => if k.sameKey key then (k, value) :: rest else (k, v) :: setKey key value rest

/-- Items with one more, unless it is there. -/
def addItem (item : Datum) (items : List Datum) : List Datum :=
  if items.any (·.sameKey item) then items else items ++ [item]

/-- The mapping with given texts as keys. -/
def record (entries : List (String × Datum)) : Datum :=
  mapping (entries.map fun (key, value) => (text key, value))

/-- The entries of a mapping whose keys are texts. -/
def fields : Datum → List (String × Datum)
  | mapping entries => entries.filterMap fun (key, value) =>
    match key with
    | text name => some (name, value)
    | _ => none
  | _ => []

end Datum

/-! ## Entries of a mapping -/

/-- The value of a key in a list of entries. -/
def lookupEntry (key : String) (entries : List (String × α)) : Option α :=
  (entries.find? (·.1 = key)).map (·.2)

/-- Entries with one key set: in its place if it is there, else at the end. -/
def setEntry (key : String) (value : α) : List (String × α) → List (String × α)
  | [] => [(key, value)]
  | (k, v) :: rest => if k = key then (key, value) :: rest else (k, v) :: setEntry key value rest

/-- Entries overridden by later ones. -/
def mergeEntries (entries overrides : List (String × α)) : List (String × α) :=
  overrides.foldl (fun merged (key, value) => setEntry key value merged) entries

end UnitFoundry
