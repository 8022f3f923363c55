import UnitFoundry.Options
import UnitFoundry.Raised
import UnitFoundry.Script.Parse

/-!
# Checking a script

A script that can be read may still be refused, for a statement that stands where it makes no sense,
and may deserve warnings. Warnings given before the refusal are kept.

* `exprWarnings` — the warnings about an expression;
* `check` — the warnings about a script, and its fault if it has one;
* `compile` — reading and checking together.
-/

namespace UnitFoundry.Script

open UnitFoundry.Text

/-! ## Expressions -/

/-- The kind of a constant. -/
def Constant.kind : Constant → String
  | .none => "NoneType"
  | .bool _ => "bool"
  | .whole _ => "int"
  | .text _ => "str"

namespace Expr

/-- The kind of an expression's value, if it can be seen without running it. -/
def kind? : Expr → Option String
  | .constant value => some value.kind
  | .formatted _ => some "str"
  | .list _ => some "list"
  | .tuple _ => some "tuple"
  | .lambda .. => some "function"
  | .minus (.constant (.whole _)) => some "int"
  | _ => none

/-- Whether an expression is a constant, or the negative of one. -/
def isConstant : Expr → Bool
  | .constant _ | .minus (.constant (.whole _)) => true
  | _ => false

/-- Whether it makes no sense to ask whether another value is this very one. -/
def isLiteral : Expr → Bool
  | .constant .none | .constant (.bool _) => false
  | .constant _ | .minus (.constant (.whole _)) => true
  | .tuple items => items.all isConstant
  | _ => false

/-- Whether an expression shows that it cannot be called. -/
def isUncallable : Expr → Bool
  | .constant _ | .formatted _ | .list _ | .tuple _ | .minus (.constant (.whole _)) => true
  | _ => false

/-- Whether an expression shows that it has no items. -/
def hasNoItems : Expr → Bool
  | .constant (.text _) => false
  | .constant _ | .lambda .. | .minus (.constant (.whole _)) => true
  | _ => false

/-- Whether an expression shows that its items have whole numbers as indices. -/
def isSequence : Expr → Bool
  | .constant (.text _) | .formatted _ | .list _ | .tuple _ => true
  | _ => false

end Expr

/-- A warning about a doubtful construct. -/
def doubtful (line : Nat) (message : String) : Warning :=
  { category := "SyntaxWarning", message, line }

/-- The warning about the first comparison that asks whether a value is a literal. -/
def identityWarning? (line : Nat) : Expr → List Comparator → List Expr → Option Warning
  | left, comparator :: comparators, right :: rest =>
    let suspicious := left.isLiteral || right.isLiteral
    match comparator with
    | .same =>
      if suspicious then some (doubtful line "\"is\" with a literal. Did you mean \"==\"?")
      else identityWarning? line right comparators rest
    | .notSame =>
      if suspicious then some (doubtful line "\"is not\" with a literal. Did you mean \"!=\"?")
      else identityWarning? line right comparators rest
    | _ => identityWarning? line right comparators rest
  | _, _, _ => none

/-- The warning about a call of what cannot be called. -/
def callWarning? (line : Nat) (function : Expr) : Option Warning :=
  if function.isUncallable then
    some (doubtful line
      ("'" ++ function.kind?.getD "" ++ "' object is not callable; perhaps you missed a comma?"))
  else none

/-- The warning about an index where none can be. -/
def itemWarning? (line : Nat) (object index : Expr) : Option Warning :=
  if object.hasNoItems then
    some (doubtful line
      ("'" ++ object.kind?.getD "" ++ "' object is not subscriptable; perhaps you missed a comma?"))
  else
    match index.kind? with
    | some kind =>
      if object.isSequence && kind != "int" && kind != "bool" then
        some (doubtful line
          (object.kind?.getD "" ++ " indices must be integers or slices, not " ++ kind ++
            "; perhaps you missed a comma?"))
      else none
    | none => none

mutual

/-- The warnings about an expression and its parts. -/
def exprWarnings : Expr → List Warning
  | .constant _ | .formatted _ | .name _ => []
  | .list items | .tuple items => exprsWarnings items
  | .attribute object _ => exprWarnings object
  | .call line function arguments =>
    (callWarning? line function).toList ++ exprWarnings function ++ exprsWarnings arguments
  | .item line object index =>
    (itemWarning? line object index).toList ++ exprWarnings object ++ exprWarnings index
  | .minus operand => exprWarnings operand
  | .binary _ left right => exprWarnings left ++ exprWarnings right
  | .comparison line first comparators rest =>
    (identityWarning? line first comparators rest).toList ++ exprWarnings first ++
      exprsWarnings rest
  | .either left right => exprWarnings left ++ exprWarnings right
  | .lambda _ body => exprWarnings body
  | .binding _ value => exprWarnings value

/-- The warnings about several expressions. -/
def exprsWarnings : List Expr → List Warning
  | [] => []
  | e :: rest => exprWarnings e ++ exprsWarnings rest

end

/-- The warnings about an expression that may be left out. -/
def optionalWarnings (e : Option Expr) : List Warning := (e.map exprWarnings).getD []

/-! ## Statements -/

/-- A check that gathers warnings until a fault ends it. -/
abbrev Checking := EStateM SyntaxFault (List Warning)

/-- Warnings are added to those gathered. -/
def warn (found : List Warning) : Checking Unit := modify (· ++ found)

/-- Whether a test is a tuple with items, which always holds. -/
def alwaysHolds : Expr → Bool
  | .tuple (_ :: _) => true
  | _ => false

mutual

/-- The check of statements, in a function or outside of any. -/
def checkAll (optimize : Optimization) (inFunction : Bool) : List Statement → Checking Unit
  | [] => pure ()
  | statement :: rest => do
    checkOne optimize inFunction statement
    checkAll optimize inFunction rest

/-- The check of a statement. -/
def checkOne (optimize : Optimization) (inFunction : Bool) : Statement → Checking Unit
  | .expression value | .assign _ value => warn (exprWarnings value)
  | .annotate _ type value => do
    warn (optionalWarnings value)
    warn (exprWarnings type)
  | .pass | .importing .. => pure ()
  | .leaveLoop line column => throw { message := "'break' outside loop", line, column }
  | .leaveFunction line column value => do
    if !inFunction then throw { message := "'return' outside function", line, column }
    warn (optionalWarnings value)
  | .raise value => warn (optionalWarnings value)
  | .assertion line test message => do
    if alwaysHolds test then
      warn [doubtful line "assertion is always true, perhaps remove parentheses?"]
    if optimize.keepsAssertions then
      warn (exprWarnings test)
      warn (optionalWarnings message)
  | .function _ _ decorators body => do
    warn (exprsWarnings decorators)
    checkAll optimize true body
  | .type _ body => checkAll optimize false body
  | .branch test body otherwise => do
    warn (exprWarnings test)
    checkAll optimize inFunction body
    checkAll optimize inFunction otherwise
  | .attempt body handlers => do
    checkAll optimize inFunction body
    checkHandlers optimize inFunction handlers
  | .choose subject cases => do
    warn (exprWarnings subject)
    checkCases optimize inFunction cases
  | .within managers body => do
    warn (exprsWarnings (managers.map (·.1)))
    checkAll optimize inFunction body

/-- The check of handlers. -/
def checkHandlers (optimize : Optimization) (inFunction : Bool) : List Handler → Checking Unit
  | [] => pure ()
  | .mk kind body :: rest => do
    warn (optionalWarnings kind)
    checkAll optimize inFunction body
    checkHandlers optimize inFunction rest

/-- The check of cases. -/
def checkCases (optimize : Optimization) (inFunction : Bool) : List Case → Checking Unit
  | [] => pure ()
  | .mk _ body :: rest => do
    checkAll optimize inFunction body
    checkCases optimize inFunction rest

end

/-- The check of a script: its fault, if it has one, and the warnings about it. -/
def check (optimize : Optimization) (script : Block) : Except SyntaxFault Unit × List Warning :=
  match (checkAll optimize false script).run [] with
  | .ok _ found => (.ok (), found)
  | .error fault found => (.error fault, found)

/-! ## Compilation -/

/-- Why a source is no script. -/
inductive Rejection where
  | fault (f : SyntaxFault)
  /-- The source has a NUL in it. -/
  | nullBytes
  /-- The version of the grammar cannot be read. -/
  | unreadable (message : String)
  deriving Repr

namespace Rejection

/-- The category of a rejection. -/
def category : Rejection → String
  | fault f => f.category
  | nullBytes | unreadable _ => "ValueError"

/-- The wording of a rejection. -/
def message : Rejection → String
  | fault f => f.message
  | nullBytes => "source code string cannot contain null bytes"
  | unreadable message => message

/-- The place of a rejection: line and column. -/
def place? : Rejection → Option (Nat × Nat)
  | fault f => some (f.line, f.column)
  | nullBytes | unreadable _ => none

end Rejection

/-- The result of a compilation: a script or why there is none, and the warnings. -/
structure Compilation where
  result : Except Rejection Block
  warnings : List Warning := []

/-- The minor number of the version of the grammar when no target is given. -/
def currentMinor : Nat := 11

/-- The greatest minor number that a version of the grammar can have. -/
def greatestMinor : Nat := twoTo 31 - 1

/-- The compilation of a source by the grammar of a minor version. -/
def compile (minor : Nat) (optimize : Optimization) (source : String) : Except Raised Compilation :=
  if greatestMinor < minor then
    .error { kind := "OverflowError", message := "Python int too large to convert to C int" }
  else if source.toList.contains '\x00' then .ok { result := .error .nullBytes }
  else
    match parse minor source with
    | (.error fault, found) => .ok { result := .error (.fault fault), warnings := found }
    | (.ok script, found) =>
      match check optimize script with
      | (.error fault, more) => .ok { result := .error (.fault fault), warnings := found ++ more }
      | (.ok _, more) => .ok { result := .ok script, warnings := found ++ more }

end UnitFoundry.Script
