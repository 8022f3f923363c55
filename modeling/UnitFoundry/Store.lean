import UnitFoundry.Disk
import UnitFoundry.Failure
import UnitFoundry.UnitName

/-!
# The durable store

Artifacts are kept as files below a directory, one path component per part of the unit's name. A
save writes a temporary file and renames it, so that no reader sees half an artifact. A failed save
leaves every file as it was.

* `DurableStore.create` — a store in a directory, which is made if it is missing;
* `saveIn` — a save, in whatever circumstances;
* `save`, `get`, `contains`, `clear` — the operations of a store.
-/

namespace UnitFoundry

open UnitFoundry.Text

/-- A store of artifacts below a directory. -/
structure DurableStore where
  directory : Path
  deriving Repr

/-- What tells the temporary file that is tried first from other files. -/
def temporaryMark : String := "pending0"

/-- The marks of temporary files that are tried one after the other. -/
def markAt : Nat → String
  | 0 => temporaryMark
  | n + 1 => "pending" ++ showNat (n + 1)

namespace DurableStore

/-- What a save meets with apart from the tree: the marks that its temporary file may get, and what the
system refuses for reasons that the tree does not show. -/
structure Circumstances where
  mark : Nat → String := markAt
  /-- How many calls there is room for that make directories. -/
  nesting : Nat := Disk.nestingLimit
  /-- Why a directory cannot be made in a tree, if it cannot. -/
  making : Disk → Path → Option SystemFailure := fun _ _ => none
  /-- Why the temporary file cannot be made. -/
  creation : Option SystemFailure := none
  /-- How many bytes are written and why not more. -/
  writing : Option (Nat × SystemFailure) := none
  /-- Why the temporary file cannot be put in the place of the artifact. -/
  replacement : Option SystemFailure := none
  /-- Why the temporary file cannot be taken away. -/
  removal : Option SystemFailure := none

/-- A store in a directory, which is made with the directories above it as far as they are missing.
Those that were made stay, also if the store cannot be had. -/
def establish (disk : Disk) (directory : Path) : Disk × Except Raised DurableStore :=
  match disk.madeDirectories directory with
  | (made, none) => (made, .ok { directory })
  | (made, some why) => (made, .error why)

/-- A store in a directory, and the tree with that directory. -/
def create (disk : Disk) (directory : Path) : Except Raised (DurableStore × Disk) :=
  (disk.makeDirectories directory).map ({ directory }, ·)

/-- The path of a unit's artifact. -/
def pathOf (s : DurableStore) (name : String) : Path :=
  s.directory.append (UnitName.toPath name UnitName.artifactExtension)

/-- The absolute path of a temporary file beside an artifact. -/
def temporaryPath (disk : Disk) (path : Path) (mark : String) : Path :=
  disk.absolute (path.parent.append ("." ++ path.stem ++ "_" ++ mark ++ ".tmp"))

/-- The first mark from the `n`th one on under which there is no temporary file, in so many attempts. -/
def freeMark? (isTaken : String → Bool) (mark : Nat → String) : Nat → Nat → Option String
  | 0, _ => none
  | attempts + 1, n =>
    if isTaken (mark n) then freeMark? isTaken mark attempts (n + 1) else some (mark n)

/-- How many marks are tried. -/
def attemptLimit : Nat := 10000

/-- The failure to find a mark that is free. -/
def noMark : Raised :=
  { kind := "FileExistsError", message := "[Errno 17] No usable temporary file name found" }

/-- A tree with a new temporary file beside an artifact, which has as much of the data as is written. -/
def writeTemporary (c : Circumstances) (disk : Disk) (path : Path) (data : Bytes) :
    Except Raised (Path × Disk) :=
  match freeMark? (fun mark => disk.exists (temporaryPath disk path mark)) c.mark attemptLimit 0 with
  | none => .error noMark
  | some mark =>
    match c.creation with
    | some failure => .error failure.why
    | none =>
      let written := match c.writing with
        | some (count, _) => data.take count
        | none => data
      (disk.write (temporaryPath disk path mark) written).map (temporaryPath disk path mark, ·)

/-- The tree after a temporary file has been taken away for a failure, if that can be done. -/
def abandon (c : Circumstances) (disk : Disk) (temporary : Path) (why : Raised) : Disk × Option Raised :=
  match c.removal, disk.remove temporary with
  | none, .ok cleaned => (cleaned, some why)
  | _, _ => (disk, some why)

/-- The tree after a temporary file has been made the artifact, unless not all of it was written. -/
def commit (c : Circumstances) (disk : Disk) (temporary path : Path) : Disk × Option Raised :=
  match c.writing, c.replacement with
  | some (_, failure), _ => abandon c disk temporary failure.why
  | none, some failure => abandon c disk temporary failure.why
  | none, none =>
    match disk.rename temporary path with
    | .ok renamed => (renamed, none)
    | .error why => abandon c disk temporary why

/-- The tree after data have been put into a file by way of a temporary one. -/
def replaceFile (c : Circumstances) (disk : Disk) (path : Path) (data : Bytes) : Disk × Option Raised :=
  match writeTemporary c disk path data with
  | .error why => (disk, some why)
  | .ok (temporary, written) => commit c written temporary path

/-- The failure of a save whose temporary file could not be made the artifact. -/
def saveFailed (name : String) (path : Path) (why : Raised) : Raised :=
  { kind := "OSError"
    message := "Failed to save artifact " ++ name ++ " to " ++ path.toString ++ ": " ++ why.message }

/-- The tree after a save, and the failure that ended it early. The directories that were made stay;
the temporary file never does, if it can be taken away. -/
def saveIn (c : Circumstances) (s : DurableStore) (disk : Disk) (name : String) (data : Bytes) :
    Disk × Option Raised :=
  match disk.makeDirectoriesWithin c.making c.nesting (s.pathOf name).parent with
  | (made, some why) => (made, some why)
  | (made, none) =>
    (replaceFile c made (s.pathOf name) data).map id
      (Option.map (saveFailed name (s.pathOf name)))

/-- The tree after a save in which the system refuses nothing for reasons of its own, and the failure
that ended it early. -/
def save (s : DurableStore) (disk : Disk) (name : String) (data : Bytes) : Disk × Option Raised :=
  s.saveIn {} disk name data

/-- The saved artifact of a unit, if there is one. A name that is too long for a file is a failure. -/
def get (s : DurableStore) (disk : Disk) (name : String) : Except Raised (Option Bytes) :=
  disk.find (s.pathOf name)

/-- Whether an artifact of a unit is saved. -/
def contains (s : DurableStore) (disk : Disk) (name : String) : Except Raised Bool :=
  (s.get disk name).map Option.isSome

/-- The record of a save. -/
def savedText (s : DurableStore) (name : String) : String :=
  "Saved artifact " ++ "'" ++ name ++ "' to " ++ (s.pathOf name).toString

/-- The paths of all saved artifacts: whatever below the directory has their extension. What a
directory holds itself comes before what the directories in it hold. -/
def saved (s : DurableStore) (disk : Disk) : List Path :=
  match disk.locate s.directory with
  | .ok place =>
    let found := (disk.below place).filterMap fun (parts, _) =>
      if endsWith (parts.getLastD "") UnitName.artifactExtension then some parts else none
    let ordered := found.mergeSort fun a b => !(b.dropLast < a.dropLast)
    ordered.map fun parts => { s.directory with parts := s.directory.parts ++ parts }
  | .error _ => []

/-- The tree after the files at some paths have been removed in turn, and the failure that ended it. -/
def removeAll (disk : Disk) : List Path → Disk × Option Raised
  | [] => (disk, none)
  | path :: rest =>
    match disk.remove path with
    | .ok disk => removeAll disk rest
    | .error why => (disk, some why)

/-- The tree after all saved artifacts have been removed, and the failure that ended it early. -/
def clear (s : DurableStore) (disk : Disk) : Disk × Option Raised :=
  removeAll disk (s.saved disk)

end DurableStore

end UnitFoundry
