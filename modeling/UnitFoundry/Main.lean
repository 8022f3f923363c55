import UnitFoundry.CommandLine.Report

/-!
# The program

The outer layer: it gathers what a command may look at, runs the command, and carries out what the
command leaves behind. Archives are not unpacked: here they are regular files.
-/

namespace UnitFoundry.Program

open Text

/-- The file or directory at a place with all that is below it, added to a tree. -/
partial def gather (disk : Disk) (place : List String) : IO Disk := do
  let path := "/" ++ "/".intercalate place
  let known := (← IO.currentDir) / path
  if ← known.isDir then
    let entries ← known.readDir
    entries.foldlM (fun disk entry => gather disk (place ++ [entry.fileName]))
      (disk.put place .directory)
  else if ← known.pathExists then
    pure (disk.put place (.file (← IO.FS.readBinFile known).toList))
  else pure disk

/-- A tree with the directories that lead to a place, as far as they are there. -/
def gatherAbove (disk : Disk) (place : List String) : IO Disk := do
  let above := (List.range place.length).map fun n => place.take n
  above.foldlM (fun disk place => do
    let known := (← IO.currentDir) / ("/" ++ "/".intercalate place)
    if ← known.isDir then pure (if place.isEmpty then disk else disk.put place .directory)
    else pure disk) disk

/-- What a path leads to, with what is above and below it, added to a tree. -/
def gatherPath (disk : Disk) (path : Path) : IO Disk := do
  let start : Path := if path.isAbsolute then { slashes := 1 } else { slashes := 1, parts := disk.here }
  let place := (start.join { path with slashes := 0 }).collapse.parts
  gather (← gatherAbove disk place) place

/-- The variables that settings come from. -/
def readEnvironment : IO (List (String × String)) :=
  Settings.fieldVariables.filterMapM fun (ending, _) => do
    let name := Settings.variableStart ++ ending
    pure ((← IO.getEnv name).map fun value => (name, value))

/-- The tree that a command may look at: the files it names, and what its settings name. -/
def readDisk (words : List String) (environment : List (String × String)) : IO Disk := do
  let here := (Path.ofString (← IO.currentDir).toString).parts
  let disk := (← gatherAbove { here } here).put here .directory
  match CommandLine.Command.ofWords? words with
  | some (.compile source _ request) => do
    let disk ← gatherPath disk (Path.ofString source)
    let disk ← match request.config with
      | some config => gatherPath disk (Path.ofString config)
      | none => pure disk
    match Settings.load disk (request.config.map Path.ofString) environment with
    | .ok settings =>
      (settings.resourcePath ++ settings.compileDirectory.toList).foldlM gatherPath disk
    | .error _ => pure disk
  | _ => pure disk

/-- The changes from one tree to another are carried out. -/
def writeChanges (before after : Disk) : IO Unit :=
  after.nodes.forM fun (place, node) => do
    if before.get? place != some node then
      let path := "/" ++ "/".intercalate place
      match node with
      | .directory => IO.FS.createDirAll path
      | .file data => IO.FS.writeBinFile path ⟨data.toArray⟩
      | .archive _ => pure ()

/-- A command line is run. -/
def runWords (words : List String) : IO UInt32 := do
  let environment ← readEnvironment
  let disk ← readDisk words environment
  let coloured ← (← IO.getStdout).isTty
  let report := CommandLine.run { disk, environment, coloured } words
  IO.print report.output
  report.log.forM fun record => IO.eprintln record.line
  IO.eprint report.complaint
  if report.wrongUsage then IO.eprintln CommandLine.usageText
  match report.escaped with
  | some failure => IO.eprintln (failure.label ++ ": " ++ failure.message)
  | none => pure ()
  writeChanges disk report.disk
  pure (UInt32.ofNat (report.status % 256).toNat)

end UnitFoundry.Program

/-- The program with the words of its command line. -/
def main (words : List String) : IO UInt32 := UnitFoundry.Program.runWords words
