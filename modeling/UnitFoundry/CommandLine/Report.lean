import UnitFoundry.CommandLine.Command
import UnitFoundry.CommandLine.Styled
import UnitFoundry.Setup

/-!
# Running commands

A command is run in surroundings and ends with a report: an exit status, what it printed, and what
it wrote to the log. A line that gives no command, or names files that cannot be read, is a wrong
usage.

* `Surroundings`, `Report` — what a command finds and what it leaves behind;
* `runCompile` — the compile command;
* `run` — a whole command line.
-/

namespace UnitFoundry.CommandLine

open Script Text

/-- What a command finds. -/
structure Surroundings where
  disk : Disk := {}
  environment : List (String × String) := []
  /-- Whether the output may be coloured. -/
  coloured : Bool := false

/-- How a command ended. -/
structure Report where
  status : Int := 0
  output : String := ""
  log : List Record := []
  /-- What goes to the error channel after the log. -/
  complaint : String := ""
  wrongUsage : Bool := false
  /-- The failure that ended the command, if nothing in the command dealt with it. -/
  escaped : Option Failure := none
  disk : Disk := {}

/-! ## Printing -/

/-- A line of output. -/
def Surroundings.line (around : Surroundings) (s : String) : String :=
  (if around.coloured then s else stripStyles s) ++ "\n"

/-- The colour of a kind of diagnostic. -/
def kindColour : DiagnosticKind → Colour
  | .error => .red
  | .mandatoryWarning | .warning => .yellow
  | .note => .blue
  | .other => .white

/-- The columns that the kind of a diagnostic takes. -/
def kindWidth : Nat := 28

/-- A diagnostic as a line of output. -/
def diagnosticLine (d : Diagnostic) : String :=
  "  " ++ fill kindWidth (paint (kindColour d.kind) false ("[" ++ d.kind.label ++ "]")) ++ " " ++
    d.toText

/-! ## The compile command -/

/-- The unit of a request is compiled, by a compiler that is set up for it. -/
def compileUnit (environment : List (String × String)) (source name : String) (r : CompileRequest) :
    Action ModuleId := do
  let disk := (← get).disk
  let settings ← ofExcept (Settings.load disk (r.config.map Path.ofString) environment)
  let backend ← Setup.ofSettings settings none
  Compiler.configure r.change
  Compiler.logResourcePath
  let text ← ofExcept (disk.readText (Path.ofString source))
  Compiler.compile backend name text

/-- What a dotted path leads to in a module, as a text. -/
def callPath (m : ModuleId) (path : String) : Action String := do
  Loader.withWording do quoted Loader.engine (← Loader.invoke m path [])

/-- A report of a command that a failure ended. Some failures ask for an exit or an abort. -/
def Report.ended (r : Report) (failure : Failure) : Report :=
  let failed := { r with status := 1, escaped := some failure }
  match failure with
  | .raised why =>
    if why.kind = "SystemExit" then
      match why.argument with
      | .absent => r
      | .whole n => { r with status := n }
      | .something => { r with status := 1, output := r.output ++ why.message ++ "\n" }
    else if why.kind = "KeyboardInterrupt" || why.kind = "EOFError" then
      { r with status := 1, complaint := "\nAborted!\n" }
    else failed
  | _ => failed

/-- A report of a compilation that failed. -/
def Report.refused (around : Surroundings) (r : Report) (name : String) (failure : Failure) :
    Report :=
  let wrong : Report :=
    { r with status := 2, output := around.line (paint .red true ("Error: " ++ failure.message)) }
  match failure with
  | .error e =>
    match e.kind with
    | .compilation found =>
      { r with
        status := 1
        output := String.join ((paint .red true ("Compilation of " ++ name ++ " failed") ::
          found.map diagnosticLine).map around.line) }
    | _ => wrong
  | failure =>
    if failure.isKindOf "ValueError" || failure.isKindOf "OSError" then wrong
    else r.ended failure

/-- Whether a word names a regular file. A path that ends in a slash or a dot names a directory. -/
def namesFile (disk : Disk) (word : String) : Bool :=
  let last := (pieces '/' word).getLastD ""
  !last.isEmpty && last != "." && (disk.read? (Path.ofString word)).isSome

/-- A report of a wrong usage. -/
def Report.usage (around : Surroundings) : Report :=
  { status := 2, wrongUsage := true, disk := around.disk }

/-- The compile command. -/
def runCompile (around : Surroundings) (source name : String) (r : CompileRequest) : Report :=
  if !namesFile around.disk source || r.config.any fun path => !namesFile around.disk path then
    .usage around
  else
    let start : Session :=
      { disk := around.disk, level := if r.verbose then .debug else .warning }
    match compileUnit around.environment source name r start with
    | .error failure s => Report.refused around { log := s.log, disk := s.disk } name failure
    | .ok m s =>
      let compiled := around.line
        (paint .green true ("Compiled " ++ name ++ " -> " ++ UnitName.canonical name))
      let path := r.call.getD ""
      if path.isEmpty then { output := compiled, log := s.log, disk := s.disk }
      else
        match callPath m path s with
        | .ok text s => { output := compiled ++ around.line text, log := s.log, disk := s.disk }
        | .error failure s =>
          Report.ended { output := compiled, log := s.log, disk := s.disk } failure

/-! ## All commands -/

/-- The name and version of the program. -/
def versionText : String := "livecompile, version 1.0.0"

/-- The forms that a command line can have. -/
def usageText : String :=
  "\n".intercalate
    ["Usage: livecompile [--version] [--help] COMMAND",
     "",
     "Commands:",
     "  compile SOURCE --name NAME [--config FILE] [--target-version VERSION]",
     "          [--[no-]lint-recovery] [--[no-]strict-warnings] [--call PATH] [--verbose]",
     "  canonicalize NAME",
     "  list-backends"]

/-- The backends that can be configured, as lines of output. -/
def backendLines : List String :=
  ["Available backends:", ""] ++
    Catalogue.installed.available.map fun name => "  " ++ paint .cyan true name

/-- A command is run. -/
def runCommand (around : Surroundings) : Command → Report
  | .notice .version => { output := around.line versionText, disk := around.disk }
  | .notice .usage => { output := around.line usageText, disk := around.disk }
  | .compile source name request => runCompile around source name request
  | .canonicalize name => { output := around.line (UnitName.canonical name), disk := around.disk }
  | .listBackends =>
    { output := String.join (backendLines.map around.line), disk := around.disk }

/-- A command line is run. -/
def run (around : Surroundings) (words : List String) : Report :=
  match Command.ofWords? words with
  | some command => runCommand around command
  | none => .usage around

end UnitFoundry.CommandLine
