import UnitFoundry.Disk
import UnitFoundry.File
import UnitFoundry.Text.Percent

/-!
# The resource path

An ordered list of places that are searched for files that memory does not hold: directories, and
archives with named entries. The first place that has a file wins. A file that is neither serves as
an empty place.

* `Listing` — files one after the other, as far as they can be had;
* `ResourcePath.find` — the file at a path, from the first place that has it;
* `ResourcePath.list` — the files below a package, place by place;
* `settle` — the places that are there, out of those given.
-/

namespace UnitFoundry

open UnitFoundry.Text

/-- The places that are searched, as absolute paths. -/
structure ResourcePath where
  places : List Path := []
  deriving Repr

/-- The home directory of the user, for paths that begin with a tilde. -/
def homeDirectory : String := "/root"

/-- A path with the home directory in place of a tilde at its start. Other users' are unknown. -/
def expandHome (p : Path) : Except Failure Path :=
  if p.isAbsolute then .ok p
  else
    match p.parts with
    | first :: rest =>
      if first = "~" then .ok { (Path.ofString homeDirectory) with
        parts := (Path.ofString homeDirectory).parts ++ rest }
      else if beginsWith first "~" then
        .error (.exception "RuntimeError" "Could not determine home directory.")
      else .ok p
    | [] => .ok p

/-- What becomes of given places: those that are there, those that are missing, and the failure that
ended the search for them. -/
structure Settled where
  present : List Path := []
  missing : List Path := []
  failure : Option Failure := none

/-- The places that are there, out of those given. -/
def settle (disk : Disk) : List Path → Settled
  | [] => {}
  | given :: rest =>
    match expandHome given with
    | .error failure => { failure := some failure }
    | .ok place =>
      let later := settle disk rest
      match disk.look place, disk.locate place with
      | .error why, _ => { failure := some (.raised why) }
      | .ok (some _), .ok parts => { later with present := ⟨1, parts⟩ :: later.present }
      | .ok _, _ => { later with missing := place :: later.missing }

/-- Files one after the other, and the failure that ended the search for more. -/
structure Listing where
  files : List File := []
  failure : Option Failure := none

namespace Listing

/-- A listing with more files at its start. -/
def after (l : Listing) (files : List File) : Listing := { l with files := files ++ l.files }

/-- All the files of a listing, which must be complete. -/
def all (l : Listing) : Except Failure (List File) :=
  match l.failure with
  | none => .ok l.files
  | some failure => .error failure

/-- Whether a file passes a test; files after the first that does are not looked for. -/
def any (l : Listing) (test : File → Bool) : Except Failure Bool :=
  if l.files.any test then .ok true
  else
    match l.failure with
    | none => .ok false
    | some failure => .error failure

end Listing

namespace ResourcePath

/-! ## Files of a place -/

/-- The content of the file at a path in a place. In an archive the last entry of a name counts. -/
def readIn (disk : Disk) (place : Path) (path : String) : Except Raised (Option Bytes) :=
  match disk.node? place with
  | some .directory => disk.find (place.append path)
  | some (.archive entries) => .ok (lookupEntry path entries.reverse)
  | _ => .ok none

/-- The address of a file in a place. -/
def uriIn (disk : Disk) (place : Path) (path : String) : String :=
  if disk.isDirectory place then "file://" ++ percentEncode (place.append path).toString
  else "zip+file://" ++ percentEncode place.toString ++ "#" ++ path

/-- The file with given content at a path in a place. What has neither extension counts as an
artifact whose name is the whole path. -/
def fileIn (disk : Disk) (place : Path) (path : String) (data : Bytes) : File :=
  let kind := (FileKind.ofPath? path).getD .artifact
  let stem := (withoutSuffix? kind.extension path).getD path
  File.ofBytes (uriIn disk place path) (replaceIn '/' '.' stem) kind data

/-- Whether an entry of an archive is a file below a directory, or directly in it. -/
def isListed (directory : String) (recurse : Bool) (name : String) : Bool :=
  if endsWith name "/" then false
  else
    let rest := if directory.isEmpty then some name.toList
      else dropStart? (directory ++ "/").toList name.toList
    match rest with
    | some rest => recurse || !rest.contains '/'
    | none => false

/-- The paths of the files below a directory of a place, given with slashes. -/
def pathsIn (disk : Disk) (place : Path) (directory : String) (recurse : Bool) :
    Except Raised (List String) := do
  match disk.node? place with
  | some .directory =>
    let base := place.append directory
    match ← disk.look base with
    | some .directory =>
      if place.parts.isPrefixOf base.parts then
        let leading := base.parts.drop place.parts.length
        pure ((disk.filesBelow base recurse).map fun parts => "/".intercalate (leading ++ parts))
      else pure []
    | _ => pure []
  | some (.archive entries) => pure ((entries.map (·.1)).filter (isListed directory recurse))
  | _ => pure []

/-! ## Files of the path -/

/-- The file at a path, from the first of some places that has it. -/
def findIn (disk : Disk) (path : String) : List Path → Except Raised (Option File)
  | [] => .ok none
  | place :: places => do
    match ← readIn disk place path with
    | some data => pure (some (fileIn disk place path data))
    | none => findIn disk path places

/-- The file at a path, from the first place that has it. Slashes at the start do not count. A path
that is too long for a directory is a failure. -/
def find (r : ResourcePath) (disk : Disk) (path : String) : Except Raised (Option File) :=
  findIn disk (String.ofList (path.toList.dropWhile (· = '/'))) r.places

/-- The files of some kinds that one place has below a package, in order of their addresses if the
place is a directory, and in the order of the entries if it is an archive. -/
def listIn (disk : Disk) (place : Path) (package : String) (kinds : List FileKind) (recurse : Bool) :
    Except Raised (List File) := do
  let paths ← pathsIn disk place (replaceIn '.' '/' package) recurse
  let wanted := paths.filter fun path => (FileKind.ofPath? path).any kinds.contains
  let found ← wanted.filterMapM fun path => do
    pure ((← readIn disk place path).map (fileIn disk place path))
  pure (if disk.isDirectory place then found.mergeSort fun a b => !(b.uri < a.uri) else found)

/-- The files of some kinds below a package, in some places one after the other. -/
def listAll (disk : Disk) (package : String) (kinds : List FileKind) (recurse : Bool) :
    List Path → Listing
  | [] => {}
  | place :: places =>
    match listIn disk place package kinds recurse with
    | .ok files => (listAll disk package kinds recurse places).after files
    | .error why => { failure := some (.raised why) }

/-- The files of some kinds below a package, place by place. -/
def list (r : ResourcePath) (disk : Disk) (package : String) (kinds : List FileKind)
    (recurse : Bool) : Listing :=
  listAll disk package kinds recurse r.places

/-- The places as texts. -/
def texts (r : ResourcePath) : List String := r.places.map Path.toString

/-- A resource path as a constructor applied to its places. -/
def toText (r : ResourcePath) : String := "ResourcePath(" ++ quoteList r.texts ++ ")"

end ResourcePath

end UnitFoundry
