import UnitFoundry.Script.Compare

/-!
# Operators

Sums, quotients, negatives and items. A type of a script may say what an operator does with its
objects, on the left or on the right; after that come numbers, and last sequences that are joined.

* `operate` — the value of an operator between two values;
* `negate` — the negative of a number;
* `item` — an item of a sequence.
-/

namespace UnitFoundry.Script

open Text

/-! ## Sums and quotients -/

/-- The symbol of an operator. -/
def Operator.symbol : Operator → String
  | add => "+"
  | floorDivide => "//"

/-- The names of an operator's operation on its left and on its right operand. -/
def Operator.names : Operator → String × String
  | add => ("__add__", "__radd__")
  | floorDivide => ("__floordiv__", "__rfloordiv__")

/-- The failure of an operator that does not know its operands. -/
def unsupported (operator : Operator) (a b : Value) : Action α := do
  Action.exception "TypeError"
    ("unsupported operand type(s) for " ++ operator.symbol ++ ": '" ++ clipped 100 (← kindOf a) ++
      "' and '" ++ clipped 100 (← kindOf b) ++ "'")

/-- The failure of joining a sequence and something else. -/
def unjoinable (a b : Value) : Action α := do
  let kind ← kindOf a
  Action.exception "TypeError"
    ("can only concatenate " ++ kind ++ " (not \"" ++ clipped 200 (← kindOf b) ++ "\") to " ++ kind)

/-- The number that an operator makes of two. -/
def calculate (operator : Operator) (m n : Int) : Action Value :=
  match operator with
  | .add => Action.newWhole (m + n)
  | .floorDivide =>
    if n = 0 then Action.exception "ZeroDivisionError" "integer division or modulo by zero"
    else Action.newWhole (Int.fdiv m n)

/-- Two sequences joined. -/
def join (a b : Value) : Action Value := do
  match a, b with
  | .text s _, .text t _ => if s.isEmpty then pure b else if t.isEmpty then pure a else Action.newText (s ++ t)
  | .text _ _, _ => unjoinable a b
  | _, _ =>
    match ← Action.object? a, ← Action.object? b with
    | some (.list as), some (.list bs) => Action.newObject (.list (as ++ bs))
    | some (.tuple as), some (.tuple bs) => Action.newObject (.tuple (as ++ bs))
    | some (.list _), _ | some (.tuple _), _ => unjoinable a b
    | _, _ => unsupported .add a b

/-- What the type of one operand says about an operator; nothing, if it does not know. -/
def operandAnswer? (engine : Engine) (value : Value) (name : String) (other : Value) :
    Action (Option Value) := do
  match ← special? engine value name with
  | none => pure none
  | some operation => do
    let found ← operation [other]
    pure (if found = .notImplemented then none else some found)

/-- The value of an operator. The right operand is asked only if its kind is another one. -/
def operate (engine : Engine) (operator : Operator) (a b : Value) : Action Value := do
  match ← operandAnswer? engine a operator.names.1 b with
  | some found => pure found
  | none => do
    let reflected ← if (← typeOf a) = (← typeOf b) then pure none
      else operandAnswer? engine b operator.names.2 a
    match reflected with
    | some found => pure found
    | none =>
      match a.asWhole?, b.asWhole?, operator with
      | some m, some n, operator => calculate operator m n
      | _, _, .add => join a b
      | _, _, .floorDivide => unsupported .floorDivide a b

/-- The negative of a number. -/
def negate (engine : Engine) (a : Value) : Action Value := do
  match a.asWhole? with
  | some n => Action.newWhole (-n)
  | none =>
    match ← special? engine a "__neg__" with
    | some operation => operation []
    | none =>
      Action.exception "TypeError" ("bad operand type for unary -: '" ++ (← kindOf a) ++ "'")

/-! ## Items -/

/-- The place in a sequence that an index means; indices below zero count from the end. -/
def placeOf? (length : Nat) (index : Int) : Option Nat :=
  let place := if index < 0 then index + length else index
  if 0 ≤ place && place < length then some place.toNat else none

/-- The greatest whole number that can be an index. -/
def greatestIndex : Int := twoTo 63 - 1

/-- The item of a sequence at an index. -/
def pick (engine : Engine) (sequence : Value) (items : List Value) (index : Value) : Action Value := do
  let kind ← kindOf sequence
  match ← index? engine index with
  | some n =>
    if n < -greatestIndex - 1 || greatestIndex < n then
      Action.exception "IndexError"
        ("cannot fit '" ++ (← kindOf index) ++ "' into an index-sized integer")
    else
      match (placeOf? items.length n).bind (items[·]?) with
      | some value => pure value
      | none =>
        Action.exception "IndexError" ((if kind = "str" then "string" else kind) ++ " index out of range")
  | none =>
    let given ← kindOf index
    Action.exception "TypeError"
      (if kind = "str" then "string indices must be integers, not '" ++ given ++ "'"
        else kind ++ " indices must be integers or slices, not " ++ given)

/-- The failure of asking for an item where there are none. -/
def noItems (value : Value) : Action α := do
  match value with
  | .exceptionType name | .builtinType name | .thing "type" name =>
    Action.exception "TypeError" ("type '" ++ name ++ "' is not subscriptable")
  | value =>
    match ← Action.object? value with
    | some (.type d) => Action.exception "TypeError" ("type '" ++ d.name ++ "' is not subscriptable")
    | _ =>
      Action.exception "TypeError"
        ("'" ++ clipped 200 (← kindOf value) ++ "' object is not subscriptable")

/-- The characters of a text as values. -/
def charactersOf (s : String) : Action (List Value) :=
  s.toList.mapM fun c => Action.newText (String.singleton c)

/-- An item of a value. -/
def item (engine : Engine) (value index : Value) : Action Value := do
  match value, ← Action.object? value with
  | .text s _, _ => do pick engine value (← charactersOf s) index
  | _, some (.list items) | _, some (.tuple items) => pick engine value items index
  | _, some (.record entries) =>
    match index with
    | .text name _ =>
      match lookupEntry name entries with
      | some found => pure found
      | none => Action.exception "KeyError" (quote name)
    | index => do Action.exception "KeyError" (← quoted engine index)
  | _, some (.type d) =>
    match lookupEntry "__class_getitem__" d.members with
    | some operation =>
      if ← takesSelf operation then engine.call operation [value, index]
      else engine.call operation [index]
    | none => noItems value
  | _, _ =>
    match ← special? engine value "__getitem__" with
    | some operation => operation [index]
    | none => noItems value

/-! ## Going through items -/

/-- How many items an object can give one by one. -/
def itemLimit : Nat := 10000

/-- The items that an operation gives for the indices from `n` on, up to the first that is not there. -/
def itemsFrom (operation : List Value → Action Value) : Nat → Nat → Action (List Value)
  | 0, _ => pure []
  | limit + 1, n => do
    match ← Action.attempt (operation [.whole n]) with
    | .ok found => do pure (found :: (← itemsFrom operation limit (n + 1)))
    | .error failure =>
      if failure.isKindOf "IndexError" || failure.isKindOf "StopIteration" then pure []
      else throw failure

/-- The items of a value, one by one. -/
def itemsOf (engine : Engine) (value : Value) : Action (List Value) := do
  match value, ← Action.object? value with
  | .text s _, _ => charactersOf s
  | _, some (.list items) | _, some (.tuple items) => pure items
  | _, some (.record entries) => entries.mapM fun (name, _) => Action.newText name
  | _, _ =>
    match ← special? engine value "__getitem__" with
    | some operation => itemsFrom operation itemLimit 0
    | none =>
      Action.exception "TypeError" ("'" ++ clipped 200 (← kindOf value) ++ "' object is not iterable")

end UnitFoundry.Script
