import UnitFoundry.CommandLine.Words
import UnitFoundry.Policy

/-!
# Commands

What can be asked for on a command line: a unit is compiled, a name is made canonical, the backends
are listed, or the program says something about itself.

* `CompileRequest` — what the compile command was asked for;
* `Command.ofWords?` — the command that a line gives, if it gives one.
-/

namespace UnitFoundry.CommandLine

/-- What the program can say about itself. -/
inductive Notice where
  | version
  | usage
  deriving Repr, DecidableEq

/-- The switches for notices; the first one given counts. -/
def noticeSwitches (withVersion : Bool) : List (Switch (Option Notice)) :=
  (if withVersion then [⟨["--version"], .set fun asked => asked.or (some .version)⟩] else []) ++
    [⟨["--help"], .set fun asked => asked.or (some .usage)⟩]

/-- What the switches of the compile command can ask for. -/
structure CompileRequest where
  name : Option String := none
  config : Option String := none
  change : Change := {}
  /-- A dotted path to what is called once the unit is loaded. -/
  call : Option String := none
  verbose : Bool := false
  notice : Option Notice := none
  deriving Repr, DecidableEq

namespace CompileRequest

/-- A request for a change of the policy. -/
def changing (f : Change → Change) (r : CompileRequest) : CompileRequest :=
  { r with change := f r.change }

/-- The switches of the compile command. -/
def switches : List (Switch CompileRequest) :=
  [⟨["--name", "-n"], .take fun value r => { r with name := some value }⟩,
   ⟨["--config", "-c"], .take fun value r => { r with config := some value }⟩,
   ⟨["--target-version"], .take fun value => changing fun c => { c with target := some value }⟩,
   ⟨["--lint-recovery"], .set (changing fun c => { c with lintRecovery := some true })⟩,
   ⟨["--no-lint-recovery"], .set (changing fun c => { c with lintRecovery := some false })⟩,
   ⟨["--strict-warnings"], .set (changing fun c => { c with warningsAsErrors := some true })⟩,
   ⟨["--no-strict-warnings"], .set (changing fun c => { c with warningsAsErrors := some false })⟩,
   ⟨["--call"], .take fun value r => { r with call := some value }⟩,
   ⟨["--verbose", "-v"], .set fun r => { r with verbose := true }⟩,
   ⟨["--help"], .set fun r => { r with notice := some .usage }⟩]

end CompileRequest

/-- A command. -/
inductive Command where
  | notice (n : Notice)
  | compile (source name : String) (request : CompileRequest)
  | canonicalize (name : String)
  | listBackends
  deriving Repr, DecidableEq

namespace Command

/-- The compile command of some words: one operand, and a name. -/
def compile? (words : List String) : Option Command :=
  match readWords CompileRequest.switches true {} words with
  | none => none
  | some (request, operands) =>
    match request.notice, operands, request.name with
    | some n, _, _ => some (.notice n)
    | none, [source], some name => some (.compile source name request)
    | _, _, _ => none

/-- A command without switches of its own. -/
def plain? (words : List String) (ofOperands : List String → Option Command) : Option Command :=
  match readWords (noticeSwitches false) true none words with
  | none => none
  | some (some n, _) => some (.notice n)
  | some (none, operands) => ofOperands operands

/-- The command of a given name. -/
def named? (name : String) (words : List String) : Option Command :=
  match name with
  | "compile" => compile? words
  | "canonicalize" => plain? words fun
    | [name] => some (.canonicalize name)
    | _ => none
  | "list-backends" => plain? words fun
    | [] => some .listBackends
    | _ => none
  | _ => none

/-- The command that a line gives. -/
def ofWords? (words : List String) : Option Command :=
  match readWords (noticeSwitches true) false none words with
  | none => none
  | some (some n, _) => some (.notice n)
  | some (none, []) => none
  | some (none, name :: rest) => named? name rest

end Command

end UnitFoundry.CommandLine
