import UnitFoundry.Script.Value
import UnitFoundry.UnitName

/-!
# The registry

For each canonical name the context that is active for it: the newest generation published. A new
generation takes the place of the one before it, and a name keeps its place in the order in which
the names were first published.

* `replace` — the registry after a publication;
* `lookup?` — the active context of a canonical name;
* `find?` — the active context of a name, which may be versioned.
-/

namespace UnitFoundry

open Script

/-- The active contexts by canonical name, in the order of first publication. -/
structure Registry where
  entries : List (String × ContextId) := []
  deriving Repr, DecidableEq

namespace Registry

/-- The active context of a canonical name. -/
def lookup? (r : Registry) (canonical : String) : Option ContextId :=
  (r.entries.find? (·.1 = canonical)).map (·.2)

/-- The active context of a name: the name as it is comes first, then its canonical name. -/
def find? (r : Registry) (name : String) : Option ContextId :=
  (r.lookup? name).or (r.lookup? (UnitName.canonical name))

/-- Entries with a context under a name: in the place of the one before it, else at the end. -/
def put (canonical : String) (context : ContextId) :
    List (String × ContextId) → List (String × ContextId)
  | [] => [(canonical, context)]
  | (name, old) :: rest =>
    if name = canonical then (canonical, context) :: rest
    else (name, old) :: put canonical context rest

/-- The registry after a context has been published under a canonical name. -/
def replace (r : Registry) (canonical : String) (context : ContextId) : Registry :=
  ⟨put canonical context r.entries⟩

/-- The active contexts, in order. -/
def contexts (r : Registry) : List ContextId := r.entries.map (·.2)

/-- The number of canonical names. -/
def size (r : Registry) : Nat := r.entries.length

/-- Whether a canonical name has an active context. -/
def contains (r : Registry) (canonical : String) : Bool := (r.lookup? canonical).isSome

end Registry

end UnitFoundry
