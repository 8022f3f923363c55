import UnitFoundry.Path
import UnitFoundry.Raised
import UnitFoundry.Text.Quoted
import UnitFoundry.Text.Utf8

/-!
# A tree of directories and files

The part of the file system that the library works on: directories, regular files and archives,
which are regular files with named entries. There are no symbolic links, so `..` always leads back
to the directory that the path came from.

* `Disk.locate` — the node that a path leads to, walking it component by component;
* `Disk.makeDirectories`, `Disk.write`, `Disk.rename`, `Disk.remove` — the changes;
* `Disk.filesBelow` — the regular files of a directory, in order of their paths.
-/

namespace UnitFoundry

open UnitFoundry.Text

/-- The reasons for which the system refuses an operation. -/
inductive Refusal where
  | noEntry
  | exists
  | notDirectory
  | isDirectory
  /-- A name, or the whole path, has too many bytes. -/
  | nameTooLong
  deriving Repr, DecidableEq

namespace Refusal

/-- The number, the text and the kind of exception of a refusal. -/
def details : Refusal → Nat × String × String
  | noEntry => (2, "No such file or directory", "FileNotFoundError")
  | «exists» => (17, "File exists", "FileExistsError")
  | notDirectory => (20, "Not a directory", "NotADirectoryError")
  | isDirectory => (21, "Is a directory", "IsADirectoryError")
  | nameTooLong => (36, "File name too long", "OSError")

/-- The exception for a refusal that concerns the given paths, the second being a destination. -/
def raised (r : Refusal) (path : Path) (destination : Option Path := none) : Raised :=
  let (number, text, kind) := r.details
  let places := quote path.toString ++
    (match destination with
      | some d => " -> " ++ quote d.toString
      | none => "")
  { kind, message := "[Errno " ++ showNat number ++ "] " ++ text ++ ": " ++ places }

end Refusal

/-- A failure of the system, for whatever reason: no permission, no room on the device. -/
structure SystemFailure where
  why : Raised
  isSystem : isKind why.kind "OSError" = true

/-- The exception for a path that has a NUL in it. -/
def embeddedNull : Raised := { kind := "ValueError", message := "embedded null byte" }

/-- What stands at a place of the tree. -/
inductive Node where
  | directory
  | file (data : Bytes)
  /-- A regular file that is an archive, with its entries in order; a name may occur twice. -/
  | archive (entries : List (String × Bytes))
  deriving Repr, DecidableEq

/-- The nodes of the tree under their places; the root is always a directory. -/
structure Disk where
  nodes : List (List String × Node) := []
  /-- The place that relative paths start from. -/
  here : List String := []
  deriving Repr

namespace Disk

/-! ## Looking -/

/-- The node at a place. -/
def get? (d : Disk) : List String → Option Node
  | [] => some .directory
  | place => (d.nodes.find? (·.1 = place)).map (·.2)

/-- How many bytes a name may have. -/
def nameLimit : Nat := 255

/-- How many bytes a path may have. -/
def pathLimit : Nat := 4095

/-- The place that components lead to from a directory. All but the last must lead through
directories that are there, and no name may be too long. -/
def walk (d : Disk) : List String → List String → Except Refusal (List String)
  | here, [] => .ok here
  | here, part :: rest =>
    match d.get? here with
    | some .directory =>
      if nameLimit < part.utf8ByteSize then .error .nameTooLong
      else walk d (if part = ".." then here.dropLast else here ++ [part]) rest
    | some _ => .error .notDirectory
    | none => .error .noEntry

/-- The place that a path leads to. -/
def locate (d : Disk) (p : Path) : Except Refusal (List String) :=
  if pathLimit < p.toString.utf8ByteSize then .error .nameTooLong
  else d.walk (if p.isAbsolute then [] else d.here) p.parts

/-- The absolute path without `..` that a path stands for. -/
def absolute (d : Disk) (p : Path) : Path :=
  (if p.isAbsolute then p else { slashes := 1, parts := d.here ++ p.parts }).collapse

/-- Whether a path has a NUL in it, which no place has. -/
def hasNull (p : Path) : Bool := p.parts.any fun part => part.toList.contains '\x00'

/-- The node that a path leads to. -/
def node? (d : Disk) (p : Path) : Option Node :=
  if hasNull p then none
  else
    match d.locate p with
    | .ok place => d.get? place
    | .error _ => none

/-- What a path leads to. A path that leads nowhere is no failure, but one that is too long is. -/
def look (d : Disk) (p : Path) : Except Raised (Option Node) :=
  if hasNull p then .ok none
  else
    match d.locate p with
    | .ok place => .ok (d.get? place)
    | .error .nameTooLong => .error (Refusal.nameTooLong.raised p)
    | .error _ => .ok none

/-- Whether a path leads to something. -/
def «exists» (d : Disk) (p : Path) : Bool := (d.node? p).isSome

/-- Whether a path leads to a directory. -/
def isDirectory (d : Disk) (p : Path) : Bool :=
  match d.node? p with
  | some .directory => true
  | _ => false

/-- The content of a regular file. -/
def content? : Node → Option Bytes
  | .file data => some data
  | .archive _ => some []
  | .directory => none

/-- The content of the regular file that a path leads to. -/
def read? (d : Disk) (p : Path) : Option Bytes := (d.node? p).bind content?

/-- The content of the regular file that a path leads to; a path must not be too long. -/
def find (d : Disk) (p : Path) : Except Raised (Option Bytes) :=
  (d.look p).map fun node => node.bind content?

/-- The entries of the archive that a path leads to. -/
def entries? (d : Disk) (p : Path) : Option (List (String × Bytes)) :=
  match d.node? p with
  | some (.archive entries) => some entries
  | _ => none

/-- Whether one place is strictly below another. -/
def isBelow (directory place : List String) : Bool :=
  directory.isPrefixOf place && directory.length < place.length

/-- The nodes strictly below a place, each with the components that lead to it from there, in order
of their paths. -/
def below (d : Disk) (place : List String) : List (List String × Node) :=
  let found := (d.nodes.filter fun (p, _) => isBelow place p).map fun (p, n) =>
    (p.drop place.length, n)
  found.mergeSort fun a b => !("/".intercalate b.1 < "/".intercalate a.1)

/-- The regular files below a directory, each with the components that lead to it. Without
`recurse` only those directly in it. -/
def filesBelow (d : Disk) (p : Path) (recurse : Bool) : List (List String) :=
  match d.locate p with
  | .ok place =>
    (d.below place).filterMap fun (parts, node) =>
      match node with
      | .directory => none
      | _ => if recurse || parts.length = 1 then some parts else none
  | .error _ => []

/-! ## Changing -/

/-- The tree with a node put at a place. -/
def put (d : Disk) (place : List String) (node : Node) : Disk :=
  if d.nodes.any (·.1 = place) then
    { d with nodes := d.nodes.map fun (p, n) => if p = place then (p, node) else (p, n) }
  else { d with nodes := d.nodes ++ [(place, node)] }

/-- The tree without the node at a place. -/
def delete (d : Disk) (place : List String) : Disk :=
  { d with nodes := d.nodes.filter (·.1 != place) }

/-- A tree with a new directory, whose parent must be there. -/
def makeDirectory (d : Disk) (p : Path) : Except Refusal Disk := do
  let place ← d.locate p
  match d.get? place with
  | some _ => .error .exists
  | none => pure (d.put place .directory)

/-- A tree with a new directory, unless the system refuses it for reasons of its own. -/
def tryDirectory (refuses : Disk → Path → Option SystemFailure) (d : Disk) (p : Path) : Except Raised Disk :=
  match refuses d p with
  | some failure => .error failure.why
  | none => (d.makeDirectory p).mapError (·.raised p)

/-- Whether an exception says that there is no place for a directory yet. -/
def isMissing (why : Raised) : Bool := why.kind = "FileNotFoundError"

/-- A tree in which there has to be a directory that could not be made. -/
def settleDirectory (d : Disk) (p : Path) (why : Raised) : Disk × Option Raised :=
  (d, if d.isDirectory p then none else some why)

/-- The failure of calls inside one another for which there is no room left. -/
def nestedTooDeep : Raised :=
  { kind := "RecursionError", message := "maximum recursion depth exceeded while calling a Python object" }

/-- A tree with a directory and the directories above it, as far as they are missing, and the failure
that ended the making early. What was made by then stays. Every directory that is missing is made by a
call inside of the one for the directory below it, and `depth` is how many calls there is room for. -/
def makeDirectoriesWithin (refuses : Disk → Path → Option SystemFailure) :
    Nat → Disk → Path → Disk × Option Raised
  | depth, d, p =>
    if hasNull p then (d, some embeddedNull)
    else
      match d.tryDirectory refuses p with
      | .ok made => (made, none)
      | .error why =>
        if !isMissing why then d.settleDirectory p why
        else if p.parts.isEmpty then (d, some why)
        else
          match depth with
          | 0 => (d, some nestedTooDeep)
          | depth + 1 =>
            match makeDirectoriesWithin refuses depth d p.parent with
            | (made, some why) => (made, some why)
            | (made, none) =>
              match made.tryDirectory refuses p with
              | .ok made => (made, none)
              | .error why =>
                if isMissing why then (made, some why) else made.settleDirectory p why

/-- How many calls there is room for that make directories. -/
def nestingLimit : Nat := 980

/-- A tree with a directory and the directories above it, as far as they are missing, where the system
refuses nothing else, and the failure that ended the making early. -/
def madeDirectories (d : Disk) (p : Path) : Disk × Option Raised :=
  makeDirectoriesWithin (fun _ _ => none) nestingLimit d p

/-- A tree with a directory and the directories above it, unless one cannot be made. -/
def makeDirectories (d : Disk) (p : Path) : Except Raised Disk :=
  match d.madeDirectories p with
  | (made, none) => .ok made
  | (_, some why) => .error why

/-- A tree with a new or overwritten regular file, in a directory that is there. -/
def write (d : Disk) (p : Path) (data : Bytes) : Except Raised Disk :=
  if hasNull p then .error embeddedNull
  else
    match d.locate p with
    | .ok place =>
      match d.get? place with
      | some .directory => .error (Refusal.isDirectory.raised p)
      | _ => .ok (d.put place (.file data))
    | .error refusal => .error (refusal.raised p)

/-- A tree in which a regular file stands at another place, where no directory may be. -/
def rename (d : Disk) (source target : Path) : Except Raised Disk :=
  match d.locate source, d.locate target with
  | .ok old, .ok new =>
    match d.get? old, d.get? new with
    | none, _ => .error (Refusal.noEntry.raised source target)
    | some _, some .directory => .error (Refusal.isDirectory.raised source target)
    | some node, _ => .ok ((d.delete old).put new node)
  | .error refusal, _ => .error (refusal.raised source target)
  | _, .error refusal => .error (refusal.raised source target)

/-- A tree without a regular file; nothing changes if there is none. -/
def remove (d : Disk) (p : Path) : Except Raised Disk :=
  match d.locate p with
  | .ok place =>
    match d.get? place with
    | some .directory => .error (Refusal.isDirectory.raised p)
    | some _ => .ok (d.delete place)
    | none => .ok d
  | .error .noEntry => .ok d
  | .error refusal => .error (refusal.raised p)

end Disk

end UnitFoundry
