import UnitFoundry.Script.Syntax
import UnitFoundry.Text.Split

/-!
# Scopes

Which names belong to what runs, as far as the source tells. The body of a type has private names,
which begin with two underscores and do not end with two; outside of the body they are known by
another name. A name that is bound anywhere in a function belongs to its calls.

* `privateName` — the name by which a private name of a type is known;
* `boundNames` — the names that statements bind, apart from the bodies of functions and types.
-/

namespace UnitFoundry.Script

open UnitFoundry.Text

/-! ## Private names -/

/-- The name by which a name in the body of a type is known: a private one begins with an underscore
and the name of the type, which loses its own leading underscores. -/
def privateName (owner name : String) : String :=
  let bare := String.ofList (owner.toList.dropWhile (· = '_'))
  if beginsWith name "__" && !endsWith name "__" && !name.toList.contains '.' && !bare.isEmpty then
    "_" ++ bare ++ name
  else name

/-! ## Bound names -/

mutual

/-- The names that an expression binds. -/
def boundByExpr : Expr → List String
  | .constant _ | .formatted _ | .name _ | .lambda _ _ => []
  | .list items | .tuple items => boundByExprs items
  | .attribute object _ => boundByExpr object
  | .call _ function arguments => boundByExpr function ++ boundByExprs arguments
  | .item _ object index => boundByExpr object ++ boundByExpr index
  | .minus operand => boundByExpr operand
  | .binary _ left right => boundByExpr left ++ boundByExpr right
  | .comparison _ first _ rest => boundByExpr first ++ boundByExprs rest
  | .either left right => boundByExpr left ++ boundByExpr right
  | .binding name value => name :: boundByExpr value

/-- The names that several expressions bind. -/
def boundByExprs : List Expr → List String
  | [] => []
  | e :: rest => boundByExpr e ++ boundByExprs rest

end

/-- The names that an expression binds that may be left out. -/
def boundByOption (e : Option Expr) : List String := (e.map boundByExpr).getD []

/-- The names that an import statement binds, as far as the source tells. -/
def Import.bound : Import → List String
  | .modules wanted => wanted.map fun (name, as_) =>
      as_.getD (String.ofList (cutFirst '.' name.toList).1)
  | .names _ _ wanted => (wanted.filter (·.1 != "*")).map fun (name, as_) => as_.getD name

/-- The names that a pattern binds. -/
def Pattern.bound : Pattern → List String
  | .capture name => [name]
  | _ => []

mutual

/-- The names that statements bind, apart from the bodies of functions and types. -/
def boundNames : List Statement → List String
  | [] => []
  | statement :: rest => boundByStatement statement ++ boundNames rest

/-- The names that a statement binds. -/
def boundByStatement : Statement → List String
  | .expression value => boundByExpr value
  | .assign targets value => targets ++ boundByExpr value
  | .annotate name _ value => name :: boundByOption value
  | .pass | .leaveLoop _ _ => []
  | .leaveFunction _ _ value => boundByOption value
  | .raise value => boundByOption value
  | .assertion _ test message => boundByExpr test ++ boundByOption message
  | .importing _ what => what.bound
  | .function name _ decorators _ => name :: boundByExprs decorators
  | .type name _ => [name]
  | .branch test body otherwise => boundByExpr test ++ boundNames body ++ boundNames otherwise
  | .attempt body handlers => boundNames body ++ boundByHandlers handlers
  | .choose subject cases => boundByExpr subject ++ boundByCases cases
  | .within managers body =>
    boundByExprs (managers.map (·.1)) ++ managers.filterMap (·.2) ++ boundNames body

/-- The names that handlers bind. -/
def boundByHandlers : List Handler → List String
  | [] => []
  | .mk kind body :: rest => boundByOption kind ++ boundNames body ++ boundByHandlers rest

/-- The names that cases bind. -/
def boundByCases : List Case → List String
  | [] => []
  | .mk pattern body :: rest => pattern.bound ++ boundNames body ++ boundByCases rest

end

end UnitFoundry.Script
