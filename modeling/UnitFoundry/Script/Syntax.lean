/-!
# The syntax of scripts

The source of a unit is a script: statements, one to a line, with indented blocks. A node carries
the number of its line where a message may have to name it.

* `Expr` — expressions;
* `Statement`, `Handler`, `Case` — statements and their parts;
* `Block` — the statements of a source, or of a part of it;
* `withoutAssertions` — statements without their assertions;
* `Import` — an import statement as the loader and the import check see it.
-/

namespace UnitFoundry.Script

/-- A constant. -/
inductive Constant where
  | none
  | bool (value : Bool)
  | whole (value : Int)
  | text (value : String)
  deriving Repr, DecidableEq

/-- An operator between two values. -/
inductive Operator where
  | add
  | floorDivide
  deriving Repr, DecidableEq

/-- A comparison of two values. -/
inductive Comparator where
  | equal
  | unequal
  /-- The two are one and the same. -/
  | same
  | notSame
  deriving Repr, DecidableEq

/-- An expression. -/
inductive Expr where
  | constant (value : Constant)
  /-- A formatted text without parts to fill in. -/
  | formatted (text : String)
  | name (id : String)
  | list (items : List Expr)
  | tuple (items : List Expr)
  | attribute (object : Expr) (name : String)
  | call (line : Nat) (function : Expr) (arguments : List Expr)
  | item (line : Nat) (object index : Expr)
  | minus (operand : Expr)
  | binary (operator : Operator) (left right : Expr)
  /-- A chain of comparisons, each between neighbouring operands. -/
  | comparison (line : Nat) (first : Expr) (comparators : List Comparator) (rest : List Expr)
  | either (left right : Expr)
  | lambda (parameters : List String) (body : Expr)
  /-- An assignment that has the assigned value. -/
  | binding (name : String) (value : Expr)
  deriving Repr, Inhabited

/-- An import statement, without the names it binds. -/
inductive Import where
  /-- Whole modules, each under its own name or another. -/
  | modules (wanted : List (String × Option String))
  /-- Names of one module, which is found `level` packages up; `*` stands for all its names. -/
  | names (level : Nat) (source : String) (wanted : List (String × Option String))
  deriving Repr, Inhabited

/-- What a case of a choice matches. -/
inductive Pattern where
  | constant (value : Constant)
  | anything
  | capture (name : String)
  deriving Repr

mutual

/-- A statement. -/
inductive Statement where
  | expression (value : Expr)
  | assign (targets : List String) (value : Expr)
  | annotate (name : String) (type : Expr) (value : Option Expr)
  | pass
  | leaveLoop (line column : Nat)
  | leaveFunction (line column : Nat) (value : Option Expr)
  | raise (value : Option Expr)
  | assertion (line : Nat) (test : Expr) (message : Option Expr)
  | importing (line : Nat) (what : Import)
  | function (name : String) (parameters : List String) (decorators : List Expr)
      (body : List Statement)
  | type (name : String) (body : List Statement)
  | branch (test : Expr) (body otherwise : List Statement)
  | attempt (body : List Statement) (handlers : List Handler)
  | choose (subject : Expr) (cases : List Case)
  | within (managers : List (Expr × Option String)) (body : List Statement)

/-- A part of an attempt that handles exceptions: those of one kind, or all. -/
inductive Handler where
  | mk (kind : Option Expr) (body : List Statement)

/-- A case of a choice. -/
inductive Case where
  | mk (pattern : Pattern) (body : List Statement)

end

/-- The statements of a source, in order. -/
abbrev Block := List Statement

instance : Inhabited Statement := ⟨.pass⟩

/-- The text that a statement list begins with, if its first statement is nothing but a text. -/
def documentation? : Block → Option String
  | .expression (.constant (.text s)) :: _ => some s
  | _ => none

/-! ## Assertions -/

mutual

/-- Statements with every assertion taken out. -/
def withoutAssertions : List Statement → List Statement
  | [] => []
  | statement :: rest => withoutAssertion statement :: withoutAssertions rest

/-- A statement with every assertion taken out. -/
def withoutAssertion : Statement → Statement
  | .assertion .. => .pass
  | .function name parameters decorators body =>
    .function name parameters decorators (withoutAssertions body)
  | .type name body => .type name (withoutAssertions body)
  | .branch test body otherwise =>
    .branch test (withoutAssertions body) (withoutAssertions otherwise)
  | .attempt body handlers => .attempt (withoutAssertions body) (handlersWithout handlers)
  | .choose subject cases => .choose subject (casesWithout cases)
  | .within managers body => .within managers (withoutAssertions body)
  | statement => statement

/-- Handlers with every assertion taken out. -/
def handlersWithout : List Handler → List Handler
  | [] => []
  | .mk kind body :: rest => .mk kind (withoutAssertions body) :: handlersWithout rest

/-- Cases with every assertion taken out. -/
def casesWithout : List Case → List Case
  | [] => []
  | .mk pattern body :: rest => .mk pattern (withoutAssertions body) :: casesWithout rest

end

/-! ## Imports -/

mutual

/-- The import statements of statements that stand `depth` blocks deep, in order, each with its
depth and line. -/
def importsAt (depth : Nat) : List Statement → List (Nat × Nat × Import)
  | [] => []
  | statement :: rest => importsOf depth statement ++ importsAt depth rest

/-- The import statements of one statement. -/
def importsOf (depth : Nat) : Statement → List (Nat × Nat × Import)
  | .importing line what => [(depth, line, what)]
  | .function _ _ _ body => importsAt (depth + 1) body
  | .type _ body => importsAt (depth + 1) body
  | .branch _ body otherwise => importsAt (depth + 1) body ++ importsAt (depth + 1) otherwise
  | .attempt body handlers => importsAt (depth + 1) body ++ importsOfHandlers (depth + 2) handlers
  | .choose _ cases => importsOfCases (depth + 2) cases
  | .within _ body => importsAt (depth + 1) body
  | _ => []

/-- The import statements of handlers whose bodies stand `depth` blocks deep. -/
def importsOfHandlers (depth : Nat) : List Handler → List (Nat × Nat × Import)
  | [] => []
  | .mk _ body :: rest => importsAt depth body ++ importsOfHandlers depth rest

/-- The import statements of cases whose bodies stand `depth` blocks deep. -/
def importsOfCases (depth : Nat) : List Case → List (Nat × Nat × Import)
  | [] => []
  | .mk _ body :: rest => importsAt depth body ++ importsOfCases depth rest

end

/-- The import statements of a script with their lines, those of outer blocks first. -/
def imports (script : Block) : List (Nat × Import) :=
  ((importsAt 1 script).mergeSort fun a b => a.1 ≤ b.1).map (·.2)

/-- The modules that must be found for a script to run: each module imported under its full name,
with the line of the statement. -/
def importedModules (script : Block) : List (Nat × String) :=
  (imports script).flatMap fun (line, what) =>
    match what with
    | .modules wanted => wanted.map fun (name, _) => (line, name)
    | .names level source _ => if level = 0 && !source.isEmpty then [(line, source)] else []

end UnitFoundry.Script
