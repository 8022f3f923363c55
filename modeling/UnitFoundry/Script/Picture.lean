import UnitFoundry.Script.Wording

/-!
# Pictures of values

What a value looks like from outside of scripts: all that it leads to, apart from what is in modules,
put in one piece.

* `Picture` — what a value looks like;
* `pictured` — the picture of a value.
-/

namespace UnitFoundry.Script

/-- What a value looks like from outside. -/
inductive Picture where
  | none
  | bool (value : Bool)
  | whole (value : Int)
  | text (value : String)
  /-- Items in order, whether they can be changed or not. -/
  | list (items : List Picture)
  | unit (module : ModuleId)
  | library (name : String)
  | bundle (entries : List (String × Picture))
  | function (name : String)
  | type (name : String)
  /-- Anything else is seen by the name of its type. -/
  | object (typeName : String)
  deriving Repr, Inhabited

/-- The picture of a value, with objects nested at most `depth` deep. -/
def picturedWithin : Nat → Value → Action Picture
  | 0, _ => throw (tooDeep)
  | depth + 1, value =>
    match value with
    | .none => pure .none
    | .bool b => pure (.bool b)
    | .whole n _ => pure (.whole n)
    | .text s _ => pure (.text s)
    | .module id => pure (.unit id)
    | .library which => pure (.library which.name)
    | .thing "module" name => pure (.library name)
    | .exceptionType name | .builtinType name | .thing "type" name => pure (.type (lastPart name))
    | .dumps => pure (.function "dumps")
    | .thing "function" name => pure (.function name)
    | .object id => do
      match ← Action.object id with
      | .list items | .tuple items => do pure (.list (← items.mapM (picturedWithin depth)))
      | .bundle entries => do
        pure (.bundle (← entries.mapM fun (name, value) => do
          pure (name, ← picturedWithin depth value)))
      | .function f => pure (.function f.name)
      | .type d => pure (.type d.name)
      | _ => do pure (.object (← typeNameOf value))
    | other => do pure (.object (← typeNameOf other))

/-- The picture of a value. -/
def pictured (value : Value) : Action Picture := picturedWithin wordingDepth value

end UnitFoundry.Script
