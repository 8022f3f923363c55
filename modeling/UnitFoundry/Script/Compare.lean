import UnitFoundry.Script.Wording

/-!
# Truth and equality

Whether a value counts as true, and whether two values are equal. Types of scripts may say so of
their objects, and their answer can be any value. Lists are equal if their items are, and an item is
equal to itself whatever its type says.

* `truth` — whether a value counts as true;
* `equal`, `unequal` — the answers to whether two values are equal;
* `compare` — the answer of a comparison.
-/

namespace UnitFoundry.Script

open Text

/-! ## Numbers that objects stand for -/

/-- The whole number that a value stands for as an index. -/
def index? (engine : Engine) (value : Value) : Action (Option Int) := do
  match value.asWhole? with
  | some n => pure (some n)
  | none =>
    match ← special? engine value "__index__" with
    | none => pure none
    | some get => do
      let found ← get []
      match found.asWhole? with
      | some n => pure (some n)
      | none =>
        Action.exception "TypeError"
          ("__index__ returned non-int (type " ++ (← kindOf found) ++ ")")

/-- The whole number that a value stands for, where nothing else will do. -/
def indexOnly (engine : Engine) (value : Value) : Action Int := do
  match ← index? engine value with
  | some n => pure n
  | none =>
    Action.exception "TypeError"
      ("'" ++ (← kindOf value) ++ "' object cannot be interpreted as an integer")

/-! ## Truth -/

/-- Whether an object counts as true. -/
def objectTruth (engine : Engine) (value : Value) : Object → Action Bool
  | .list items | .tuple items => pure !items.isEmpty
  | .record entries => pure !entries.isEmpty
  | .made _ _ => do
    match ← special? engine value "__bool__" with
    | some ask => do
      match ← ask [] with
      | .bool b => pure b
      | other =>
        Action.exception "TypeError" ("__bool__ should return bool, returned " ++ (← kindOf other))
    | none =>
      match ← special? engine value "__len__" with
      | some count => do
        let n ← indexOnly engine (← count [])
        if n < 0 then Action.exception "ValueError" "__len__() should return >= 0" else pure (n != 0)
      | none => pure true
  | _ => pure true

/-- Whether a value counts as true. -/
def truth (engine : Engine) (value : Value) : Action Bool := do
  match value with
  | .none => pure false
  | .notImplemented => pure true
  | .bool b => pure b
  | .whole n _ => pure (n != 0)
  | .text s _ => pure !s.isEmpty
  | .object id => do objectTruth engine value (← Action.object id)
  | _ => pure true

/-! ## Equality -/

/-- The failure of a comparison that is nested too deep. -/
def tooDeepComparison : Failure := tooDeep " in comparison"

/-- Whether the values of two lists answer a question one by one, up to the first that does not. An
item is equal to itself. -/
def allEqual (ask : Value → Value → Action Bool) : List Value → List Value → Action Bool
  | [], [] => pure true
  | a :: as, b :: bs => do
    if ← (if a = b then pure true else ask a b) then allEqual ask as bs else pure false
  | _, _ => pure false

/-- Whether two collections of named values have the same names with equal values. -/
def sameEntries (ask : Value → Value → Action Bool) (others : List (String × Value)) :
    List (String × Value) → Action Bool
  | [] => pure true
  | (name, a) :: rest => do
    match lookupEntry name others with
    | none => pure false
    | some b =>
      if ← (if a = b then pure true else ask a b) then sameEntries ask others rest else pure false

/-- The answer of a value to whether another is equal to it; nothing, if it does not know. Whether
parts of the two are equal is asked of `ask`. -/
def equalAnswer? (engine : Engine) (ask : Value → Value → Action Bool) (a b : Value) :
    Action (Option Value) := do
  match a.asWhole?, b.asWhole? with
  | some m, some n => pure (some (.bool (m = n)))
  | _, _ =>
    match a, b with
    | .text s _, .text t _ => pure (some (.bool (s = t)))
    | .object i, b => do
      match ← Action.object i, ← Action.object? b with
      | .list as, some (.list bs) | .tuple as, some (.tuple bs) =>
        if as.length = bs.length then do pure (some (.bool (← allEqual ask as bs)))
        else pure (some (.bool false))
      | .record as, some (.record bs) | .bundle as, some (.bundle bs) =>
        if as.length = bs.length then do pure (some (.bool (← sameEntries ask bs as)))
        else pure (some (.bool false))
      | .bound f self, some (.bound g other) => pure (some (.bool (f = g && self = other)))
      | .method m, some (.method n) => pure (some (.bool (m = n)))
      | .made _ _, _ => do
        match ← special? engine a "__eq__" with
        | some answer => do
          let found ← answer [b]
          pure (if found = .notImplemented then none else some found)
        | none => pure (if a = b then some (.bool true) else none)
      | _, _ => pure none
    | _, _ => pure none

/-- The answer to whether two values are equal, with lists nested at most `depth` deep: that of the
first, else that of the second, else whether they are one and the same. -/
def equalWithin (engine : Engine) : Nat → Value → Value → Action Value
  | 0, _, _ => throw tooDeepComparison
  | depth + 1, a, b => do
    let ask (a b : Value) : Action Bool := do truth engine (← equalWithin engine depth a b)
    match ← equalAnswer? engine ask a b with
    | some found => pure found
    | none =>
      match ← equalAnswer? engine ask b a with
      | some found => pure found
      | none => pure (.bool (a = b))

/-- How deep values are compared. -/
def comparisonDepth : Nat := 950

/-- The answer to whether two values are equal. -/
def equal (engine : Engine) (a b : Value) : Action Value := equalWithin engine comparisonDepth a b

/-- Whether two values are equal. -/
def isEqual (engine : Engine) (a b : Value) : Action Bool := do
  truth engine (← equal engine a b)

/-- The answer of a value to whether another is not equal to it; nothing, if it does not know. -/
def unequalAnswer? (engine : Engine) (a b : Value) : Action (Option Value) := do
  match ← special? engine a "__ne__" with
  | some answer => do
    let found ← answer [b]
    pure (if found = .notImplemented then none else some found)
  | none => do
    match ← equalAnswer? engine (isEqual engine) a b with
    | some found => do pure (some (.bool !(← truth engine found)))
    | none => pure none

/-- The answer to whether two values are not equal. -/
def unequal (engine : Engine) (a b : Value) : Action Value := do
  match ← unequalAnswer? engine a b with
  | some found => pure found
  | none =>
    match ← unequalAnswer? engine b a with
    | some found => pure found
    | none => pure (.bool (a != b))

/-- The answer of a comparison of two values. -/
def compare (engine : Engine) (comparator : Comparator) (a b : Value) : Action Value :=
  match comparator with
  | .equal => equal engine a b
  | .unequal => unequal engine a b
  | .same => pure (.bool (a = b))
  | .notSame => pure (.bool (a != b))

end UnitFoundry.Script
