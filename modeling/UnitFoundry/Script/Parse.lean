import UnitFoundry.Script.Syntax
import UnitFoundry.Script.Token
import UnitFoundry.Text.NormalForm

/-!
# Reading a script

A recursive-descent reader of tokens. It looks one token ahead, so that an unreadable source is
refused at the first token that cannot stand where it stands. Some statements and expressions were
not in every version of the grammar; they are refused below the version that brought them.

* `Reading` — what a reader keeps: the tokens left, the warnings, the version of the grammar;
* `expression`, `statement` — expressions and statements, nested at most as deep as there are tokens;
* `parse` — the script of a source.
-/

namespace UnitFoundry.Script

open UnitFoundry.Text

/-- A warning about a source. -/
structure Warning where
  category : String
  message : String
  line : Nat
  deriving Repr, DecidableEq

/-- Why reading stopped. A fault that is not final gives way to one in the tokens that follow. -/
structure Stop where
  fault : SyntaxFault
  isFinal : Bool := false
  deriving Repr

/-- The tokens not yet read, the last one read, and the warnings so far. -/
structure Reading where
  rest : List Token
  last : Token
  /-- The minor number of the version of the grammar. -/
  minor : Nat
  warnings : List Warning := []

/-- A reader. -/
abbrev Reader := EStateM Stop Reading

namespace Reader

/-! ## Tokens -/

/-- The next token. -/
def peek : Reader Token := do
  let r ← get
  pure (r.rest.headD r.last)

/-- The next token is read. -/
def advance : Reader Unit :=
  modify fun r =>
    match r.rest with
    | [] => r
    | token :: rest => { r with rest, last := token }

/-- A fault at a token. -/
def faultAt (token : Token) (message : String) (category : String := "SyntaxError") : Reader α :=
  throw { fault := { category, message, line := token.line, column := token.column } }

/-- The refusal of the next token. -/
def refuse : Reader α := do
  let token ← peek
  let stop (category message : String) : Reader α :=
    throw { fault := { category, message, line := token.line, column := token.column }
            isFinal := true }
  match token.kind with
  | .fault category message => stop category message
  | .unclosed bracket => stop "SyntaxError" ("'" ++ String.singleton bracket ++ "' was never closed")
  | .indent => stop "IndentationError" "unexpected indent"
  | .dedent => stop "IndentationError" "unexpected unindent"
  | _ => faultAt token "invalid syntax"

/-- The refusal, at a token, of what a version of the grammar brought, below that version. -/
def needs (minor : Nat) (token : Token) (what : String) : Reader Unit := do
  let r ← get
  if r.minor < minor then
    faultAt token (what ++ " only supported in Python 3." ++ showNat minor ++ " and greater")

/-- Whether the next token is of a kind; if so it is read. -/
def taken (kind : TokenKind) : Reader Bool := do
  if (← peek).kind = kind then
    advance
    pure true
  else pure false

/-- Whether the next token is a mark; if so it is read. -/
def mark (symbol : String) : Reader Bool := taken (.mark symbol)

/-- Whether the next token is a word; if so it is read. -/
def word (id : String) : Reader Bool := taken (.name id)

/-- A token of a kind, which must be next. -/
def expect (kind : TokenKind) : Reader Unit := do
  if !(← taken kind) then refuse

/-- A mark that must be next. -/
def expectMark (symbol : String) : Reader Unit := expect (.mark symbol)

/-- Whether the next token is a mark. -/
def atMark (symbol : String) : Reader Bool := do
  pure ((← peek).kind = .mark symbol)

/-- Steps repeated at most `limit` times, until one has nothing to give. -/
def repeatWithin (step : Reader (Option α)) : Nat → Reader (List α)
  | 0 => pure []
  | limit + 1 => do
    match ← step with
    | none => pure []
    | some x => do
      let rest ← repeatWithin step limit
      pure (x :: rest)

/-- Steps repeated until one has nothing to give. Each reads a token. -/
def repeated (step : Reader (Option α)) : Reader (List α) := do
  let r ← get
  repeatWithin step (r.rest.length + 1)

/-- Items with commas between them, up to a token that ends them; a comma may stand at the end. -/
def listed (item : Reader α) (atEnd : Reader Bool) : Reader (List α) := do
  if ← atEnd then pure []
  else
    let first ← item
    let rest ← repeated do
      if ← mark "," then
        if ← atEnd then pure none else pure (some (← item))
      else pure none
    pure (first :: rest)

/-! ## Names -/

/-- The words that are no names. -/
def keywords : List String :=
  ["False", "None", "True", "and", "as", "assert", "async", "await", "break", "class", "continue",
   "def", "del", "elif", "else", "except", "finally", "for", "from", "global", "if", "import", "in",
   "is", "lambda", "nonlocal", "not", "or", "pass", "raise", "return", "try", "while", "with",
   "yield"]

/-- A name, in the form by which it is known. -/
def identifier : Reader String := do
  match (← peek).kind with
  | .name id =>
    if keywords.contains id then refuse
    else
      advance
      pure (normalForm id)
  | _ => refuse

/-- A name after the word `as`, if that is next. -/
def newName : Reader (Option String) := do
  if ← word "as" then pure (some (← identifier)) else pure none

/-- A dotted name. -/
def dottedName : Reader String := do
  let first ← identifier
  let rest ← repeated do
    if ← mark "." then pure (some (← identifier)) else pure none
  pure (".".intercalate (first :: rest))

/-- The names of parameters up to a mark. -/
def parameters (closing : String) : Reader (List String) := do
  let items ← listed
    (do if ← mark "/" then pure none else pure (some (← identifier)))
    (atMark closing)
  if items.contains none then needs 8 (← peek) "Positional-only parameters are"
  pure (items.filterMap id)

/-! ## Expressions -/

/-- The digits of a number as a number. -/
def numberValue (base : NumberBase) (digits : String) : Int :=
  digits.toList.foldl
    (fun n c => if c = '_' then n else base.size * n + ((digitOf? c).getD 0 : Nat)) 0

/-- Text literals that stand side by side. -/
def textLiterals : Reader Expr := do
  let parts ← repeated do
    let token ← peek
    match token.kind with
    | .text value formatted unknown => do
      advance
      match unknown with
      | some c =>
        let warning : Warning :=
          { category := "DeprecationWarning"
            message := "invalid escape sequence '\\" ++ String.singleton c ++ "'"
            line := token.line }
        modify fun r => { r with warnings := r.warnings ++ [warning] }
      | none => pure ()
      pure (some (value, formatted))
    | _ => pure none
  let text := String.join (parts.map (·.1))
  if parts.any (·.2) then
    needs 6 (← peek) "Format strings are"
    pure (.formatted text)
  else pure (.constant (.text text))

/-- What stands between parentheses: one expression, or a tuple. -/
def parenthesized (inner : Reader Expr) : Reader Expr := do
  expectMark "("
  if ← mark ")" then pure (.tuple [])
  else
    let first ← inner
    if ← mark "," then
      let rest ← listed inner (atMark ")")
      expectMark ")"
      pure (.tuple (first :: rest))
    else
      expectMark ")"
      pure first

/-- An expression that no operator cuts. -/
def atom (inner : Reader Expr) : Reader Expr := do
  let token ← peek
  match token.kind with
  | .name "None" => advance; pure (.constant .none)
  | .name "True" => advance; pure (.constant (.bool true))
  | .name "False" => advance; pure (.constant (.bool false))
  | .name _ => do pure (.name (← identifier))
  | .number base digits => do
    if digits.toList.contains '_' then needs 6 token "Underscores in numeric literals are"
    advance
    pure (.constant (.whole (numberValue base digits)))
  | .text _ _ _ => textLiterals
  | .mark "(" => parenthesized inner
  | .mark "[" => do
    advance
    let items ← listed inner (atMark "]")
    expectMark "]"
    pure (.list items)
  | _ => refuse

/-- What may follow an expression: an attribute, a call or an index, as a function of it. -/
def trailer (line : Nat) (inner : Reader Expr) : Reader (Option (Expr → Expr)) := do
  if ← mark "." then
    let name ← identifier
    pure (some fun object => .attribute object name)
  else if ← mark "(" then
    let arguments ← listed inner (atMark ")")
    expectMark ")"
    pure (some fun function => .call line function arguments)
  else if ← mark "[" then
    let index ← inner
    expectMark "]"
    pure (some fun object => .item line object index)
  else pure none

/-- An atom with its trailers. -/
def primary (inner : Reader Expr) : Reader Expr := do
  let line := (← peek).line
  let base ← atom inner
  let trailers ← repeated (trailer line inner)
  pure (trailers.foldl (fun e f => f e) base)

/-- A primary with minus signs before it. -/
def factor (inner : Reader Expr) : Reader Expr := do
  let signs ← repeated do
    if ← mark "-" then pure (some ()) else pure none
  let operand ← primary inner
  pure (signs.foldl (fun e _ => .minus e) operand)

/-- Operands with one operator between neighbours, grouped from the left. -/
def leftGrouped (symbol : String) (operator : Operator) (operand : Reader Expr) : Reader Expr := do
  let first ← operand
  let rest ← repeated do
    if ← mark symbol then pure (some (← operand)) else pure none
  pure (rest.foldl (fun left right => .binary operator left right) first)

/-- A comparator, if one is next. -/
def comparator? : Reader (Option Comparator) := do
  if ← mark "==" then pure (some .equal)
  else if ← mark "!=" then pure (some .unequal)
  else if ← word "is" then
    if ← word "not" then pure (some .notSame) else pure (some .same)
  else pure none

/-- A chain of comparisons. -/
def comparisons (inner : Reader Expr) : Reader Expr := do
  let operand := leftGrouped "+" .add (leftGrouped "//" .floorDivide (factor inner))
  let line := (← peek).line
  let first ← operand
  let rest ← repeated do
    match ← comparator? with
    | some comparator => do
      let right ← operand
      pure (some (comparator, right))
    | none => pure none
  if rest.isEmpty then pure first
  else pure (.comparison line first (rest.map (·.1)) (rest.map (·.2)))

/-- Alternatives with `or` between them. -/
def alternatives (inner : Reader Expr) : Reader Expr := do
  let first ← comparisons inner
  let rest ← repeated do
    if ← word "or" then pure (some (← comparisons inner)) else pure none
  match (first :: rest).reverse with
  | [] => pure first
  | last :: before => pure (before.foldl (fun right left => .either left right) last)

/-- An expression, or an assignment that has a value. -/
def named (expression : Reader Expr) : Reader Expr := do
  let value ← expression
  match value with
  | .name id =>
    if ← mark ":=" then
      let assigned ← expression
      needs 8 (← peek) "Assignment expressions are"
      pure (.binding id assigned)
    else pure value
  | _ => pure value

/-- An expression nested at most `depth` deep. -/
def expression : Nat → Reader Expr
  | 0 => refuse
  | depth + 1 => do
    if ← word "lambda" then
      let names ← parameters ":"
      expectMark ":"
      let body ← expression depth
      pure (.lambda names body)
    else alternatives (named (expression depth))

/-! ## Simple statements -/

/-- The wording for what cannot be assigned to. -/
def unassignable : Expr → Option String
  | .call .. => some "function call"
  | .constant .none => some "None"
  | .constant (.bool value) => some (if value then "True" else "False")
  | .constant _ => some "literal"
  | .formatted _ => some "f-string expression"
  | .comparison .. => some "comparison"
  | .lambda .. => some "lambda"
  | .minus _ | .binary .. | .either .. => some "expression"
  | _ => none

/-- The target of an assignment, which starts at a token. -/
def target (start : Token) (e : Expr) : Reader String := do
  match e with
  | .name id => pure id
  | .constant .none | .constant (.bool _) =>
    faultAt start ("cannot assign to " ++ (unassignable e).getD "")
  | e =>
    match unassignable e with
    | some what =>
      faultAt start ("cannot assign to " ++ what ++ " here. Maybe you meant '==' instead of '='?")
    | none => refuse

/-- The targets and the value of an assignment whose first expression has been read. -/
def assignment (expression : Reader Expr) : Nat → Token → Expr → Reader (List String × Expr)
  | 0, _, _ => refuse
  | limit + 1, start, e => do
    if ← atMark "=" then
      let id ← target start e
      advance
      let next ← peek
      let value ← expression
      let (targets, value) ← assignment expression limit next value
      pure (id :: targets, value)
    else pure ([], e)

/-- A statement that begins with an expression. -/
def expressionStatement (expression : Reader Expr) : Reader Statement := do
  let start ← peek
  let e ← named expression
  if ← atMark ":" then
    match e with
    | .name id => do
      advance
      let type ← expression
      let value ← if ← mark "=" then pure (some (← expression)) else pure none
      needs 6 (← peek) "Variable annotation syntax is"
      pure (.annotate id type value)
    | _ => refuse
  else
    let r ← get
    let (targets, value) ← assignment expression (r.rest.length + 1) start e
    pure (if targets.isEmpty then .expression value else .assign targets value)

/-- The end of a statement is next. -/
def atStatementEnd : Reader Bool := do
  let kind := (← peek).kind
  pure (kind = .newline || kind = .mark ";")

/-- An expression, unless the statement ends. -/
def untilEnd (expression : Reader Expr) : Reader (Option Expr) := do
  if ← atStatementEnd then pure none else pure (some (← expression))

/-- The names that an import statement takes out of a module. -/
def importedNames : Reader (List (String × Option String)) := do
  let one : Reader (String × Option String) := do
    let name ← identifier
    pure (name, ← newName)
  if ← mark "*" then pure [("*", none)]
  else if ← mark "(" then
    let names ← listed one (atMark ")")
    expectMark ")"
    pure names
  else
    let first ← one
    let rest ← repeated do
      if ← mark "," then pure (some (← one)) else pure none
    pure (first :: rest)

/-- How many packages up dots lead. -/
def dots : Reader Nat := do
  let marks ← repeated do
    if ← mark "." then pure (some 1)
    else if ← mark "..." then pure (some 3)
    else pure none
  pure (marks.foldl (· + ·) 0)

/-- A statement of one line. -/
def simpleStatement (expression : Reader Expr) : Reader Statement := do
  let start ← peek
  if ← word "pass" then pure .pass
  else if ← word "break" then pure (.leaveLoop start.line start.column)
  else if ← word "return" then
    pure (.leaveFunction start.line start.column (← untilEnd expression))
  else if ← word "raise" then pure (.raise (← untilEnd expression))
  else if ← word "assert" then
    let test ← expression
    let message ← if ← mark "," then pure (some (← expression)) else pure none
    pure (.assertion start.line test message)
  else if ← word "import" then
    let one : Reader (String × Option String) := do
      let name ← dottedName
      pure (name, ← newName)
    let first ← one
    let rest ← repeated do
      if ← mark "," then pure (some (← one)) else pure none
    pure (.importing start.line (.modules (first :: rest)))
  else if ← word "from" then
    let level ← dots
    let source ← if level != 0 && (← peek).kind = .name "import" then pure "" else dottedName
    expect (.name "import")
    pure (.importing start.line (.names level source (← importedNames)))
  else expressionStatement expression

/-- The statements of one line. -/
def simpleLine (expression : Reader Expr) : Reader (List Statement) := do
  let first ← simpleStatement expression
  let rest ← repeated do
    if ← mark ";" then
      if (← peek).kind = .newline then pure none
      else pure (some (← simpleStatement expression))
    else pure none
  expect .newline
  pure (first :: rest)

/-! ## Blocks -/

/-- Statements up to the end of a block. -/
def untilDedent (statement : Reader (List Statement)) : Reader (List Statement) := do
  let lines ← repeated do
    let kind := (← peek).kind
    if kind = .dedent || kind = .finish then pure none else pure (some (← statement))
  pure lines.flatten

/-- The block that belongs to the statement of a line, after its colon. -/
def block (expression : Reader Expr) (statement : Reader (List Statement)) (owner : String)
    (line : Nat) : Reader (List Statement) := do
  expectMark ":"
  if ← taken .newline then
    if ← taken .indent then
      let body ← untilDedent statement
      expect .dedent
      pure body
    else
      faultAt (← peek)
        ("expected an indented block after " ++ owner ++ " on line " ++ showNat line)
        "IndentationError"
  else simpleLine expression

/-- The rest of a function after the word `def`. -/
def functionRest (expression : Reader Expr) (statement : Reader (List Statement)) (line : Nat)
    (decorators : List Expr) : Reader Statement := do
  let name ← identifier
  expectMark "("
  let names ← parameters ")"
  expectMark ")"
  let body ← block expression statement "function definition" line
  pure (.function name names decorators body)

/-- A handler of an attempt, if one is next, and whether it handles groups. -/
def handler (expression : Reader Expr) (statement : Reader (List Statement)) :
    Reader (Option (Handler × Bool)) := do
  let line := (← peek).line
  if ← word "except" then
    let grouped ← mark "*"
    let kind ← if ← atMark ":" then pure none else pure (some (← expression))
    let owner := if grouped then "'except*' statement" else "'except' statement"
    let body ← block expression statement owner line
    pure (some (.mk kind body, grouped))
  else pure none

/-- What a case matches. -/
def pattern : Reader Pattern := do
  match (← peek).kind with
  | .name "None" => advance; pure (.constant .none)
  | .name "True" => advance; pure (.constant (.bool true))
  | .name "False" => advance; pure (.constant (.bool false))
  | .name "_" => advance; pure .anything
  | .name _ => do pure (.capture (← identifier))
  | .number base digits => advance; pure (.constant (.whole (numberValue base digits)))
  | .text value _ _ => advance; pure (.constant (.text value))
  | .mark "-" => do
    advance
    match (← peek).kind with
    | .number base digits => advance; pure (.constant (.whole (-(numberValue base digits))))
    | _ => refuse
  | _ => refuse

/-- A case of a choice, if one is next. -/
def case? (expression : Reader Expr) (statement : Reader (List Statement)) :
    Reader (Option Case) := do
  let line := (← peek).line
  if ← word "case" then
    let what ← pattern
    let body ← block expression statement "'case' statement" line
    pure (some (.mk what body))
  else pure none

/-- Whether a logical line ends with a colon. -/
def endsWithColon (line : List TokenKind) : Bool :=
  (line.takeWhile (· != .newline)).getLast? = some (.mark ":")

/-- Whether the word `match` begins a choice here and is no name. What could go on with the name in
an expression is the value to choose by if the line opens a block. -/
def beginsChoice : Reader Bool := do
  let r ← get
  match r.rest.map Token.kind with
  | .name "match" :: .number _ _ :: _ => pure true
  | .name "match" :: .text _ _ _ :: _ => pure true
  | .name "match" :: .name id :: _ =>
    pure (!keywords.contains id || ["None", "True", "False", "lambda"].contains id)
  | .name "match" :: .mark symbol :: rest =>
    pure (["[", "(", "-"].contains symbol && endsWithColon rest)
  | _ => pure false

/-- A choice. -/
def choice (expression : Reader Expr) (statement : Reader (List Statement)) :
    Reader Statement := do
  let line := (← peek).line
  advance
  let subject ← expression
  expectMark ":"
  expect .newline
  if !(← taken .indent) then
    faultAt (← peek)
      ("expected an indented block after 'match' statement on line " ++ showNat line)
      "IndentationError"
  let cases ← repeated (case? expression statement)
  if cases.isEmpty then refuse
  needs 10 (← peek) "Pattern matching is"
  expect .dedent
  pure (.choose subject cases)

/-- The managers of a `with` statement, which may stand between parentheses. -/
def managers (expression : Reader Expr) : Reader (List (Expr × Option String) × Bool) := do
  let one : Reader (Expr × Option String) := do
    let manager ← expression
    pure (manager, ← newName)
  if ← mark "(" then
    let items ← listed one (atMark ")")
    expectMark ")"
    pure (items, true)
  else
    let first ← one
    let rest ← repeated do
      if ← mark "," then pure (some (← one)) else pure none
    pure (first :: rest, false)

/-- The rest of a branch after its first word. -/
def branchRest (expression : Reader Expr) (statement : Reader (List Statement)) (opener : String)
    (line : Nat) : Nat → Reader Statement
  | 0 => refuse
  | limit + 1 => do
    let test ← named expression
    let body ← block expression statement ("'" ++ opener ++ "' statement") line
    let next := (← peek).line
    if ← word "elif" then
      let otherwise ← branchRest expression statement "elif" next limit
      pure (.branch test body [otherwise])
    else if ← word "else" then
      let otherwise ← block expression statement "'else' statement" next
      pure (.branch test body otherwise)
    else pure (.branch test body [])

/-- A statement, with its blocks nested at most `depth` deep; a line may hold several. -/
def statement : Nat → Reader (List Statement)
  | 0 => refuse
  | depth + 1 => do
    let inner := statement depth
    let expression := expression (depth + 1)
    let start ← peek
    let r ← get
    if ← word "def" then pure [← functionRest expression inner start.line []]
    else if ← mark "@" then
      let first ← named expression
      expect .newline
      let rest ← repeated do
        if ← mark "@" then
          let decorator ← named expression
          expect .newline
          pure (some decorator)
        else pure none
      let line := (← peek).line
      expect (.name "def")
      pure [← functionRest expression inner line (first :: rest)]
    else if ← word "class" then
      let name ← identifier
      if ← mark "(" then expectMark ")"
      let body ← block expression inner "class definition" start.line
      pure [.type name body]
    else if ← word "if" then
      pure [← branchRest expression inner "if" start.line (r.rest.length + 1)]
    else if ← word "try" then
      let body ← block expression inner "'try' statement" start.line
      let handlers ← repeated (handler expression inner)
      if handlers.isEmpty then refuse
      if handlers.any (·.2) then needs 11 (← peek) "Exception groups are"
      pure [.attempt body (handlers.map (·.1))]
    else if ← word "with" then
      let (items, parenthesized) ← managers expression
      let body ← block expression inner "'with' statement" start.line
      let r ← get
      if parenthesized then needs 9 r.last "Parenthesized context managers are"
      pure [.within items body]
    else if ← beginsChoice then pure [← choice expression inner]
    else simpleLine expression

/-- All statements of a source. -/
def script : Reader Block := do
  let r ← get
  let statements ← untilDedent (statement (r.rest.length + 1))
  if !(← taken .finish) then refuse
  pure statements

end Reader

/-- The fault that a source is refused with, given the tokens that follow the place where reading
stopped: if they cannot be cut, that comes first. -/
def Stop.settled (stop : Stop) (here : Token) (rest : List Token) : SyntaxFault :=
  if stop.isFinal then stop.fault
  else
    match rest.getLast? with
    | some ⟨.fault category message, line, column⟩ => { category, message, line, column }
    | some ⟨.unclosed bracket, line, column⟩ =>
      if line < here.line then
        { message := "'" ++ String.singleton bracket ++ "' was never closed", line, column }
      else stop.fault
    | _ => stop.fault

/-- The script of a source, read by the grammar of a minor version, and the warnings on the way. -/
def parse (minor : Nat) (source : String) : Except SyntaxFault Block × List Warning :=
  let start : Token := ⟨.finish, 1, 1⟩
  match Reader.script.run { rest := tokens source, last := start, minor } with
  | .ok script r => (.ok script, r.warnings)
  | .error stop r => (.error (stop.settled (r.rest.headD r.last) r.rest), r.warnings)

end UnitFoundry.Script
