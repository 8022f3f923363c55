import UnitFoundry.Failure
import UnitFoundry.Text.Utf8
import UnitFoundry.UnitName

/-!
# Source and artifact files

A source has its text from the start. An artifact starts empty, is opened for writing at most once,
and is frozen with the bytes that its writer holds when it is closed.

* `Location`, `FileKind` — where a file lives and what it is;
* `File` — a file and the state of its content;
* `File.text`, `File.bytes` — reading;
* `File.open?`, `File.freeze` — the two steps of an artifact's life.
-/

namespace UnitFoundry

open UnitFoundry.Text

/-! ## Places and kinds -/

/-- Where a file lives from a backend's point of view. -/
inductive Location where
  | sourcePath
  | classPath
  | classOutput
  deriving Repr, DecidableEq

namespace Location

/-- The name of a location. -/
def label : Location → String
  | sourcePath => "source_path"
  | classPath => "class_path"
  | classOutput => "class_output"

/-- All locations. -/
def all : List Location := [sourcePath, classPath, classOutput]

/-- The location with a given name. -/
def ofLabel (s : String) : Except Failure Location :=
  match all.find? (·.label = s) with
  | some location => .ok location
  | none => .error (.exception "ValueError" (quote s ++ " is not a valid Location"))

end Location

/-- What a file is. -/
inductive FileKind where
  | source
  | artifact
  deriving Repr, DecidableEq

namespace FileKind

/-- The name of a kind of file. -/
def label : FileKind → String
  | source => "source"
  | artifact => "artifact"

/-- Both kinds. -/
def all : List FileKind := [source, artifact]

/-- The kind with a given name. -/
def ofLabel (s : String) : Except Failure FileKind :=
  match all.find? (·.label = s) with
  | some kind => .ok kind
  | none => .error (.exception "ValueError" (quote s ++ " is not a valid FileKind"))

/-- The extension of the files of a kind. -/
def extension : FileKind → String
  | source => UnitName.sourceExtension
  | artifact => UnitName.artifactExtension

/-- The kind of the file at a path, read off its extension. -/
def ofPath? (path : String) : Option FileKind :=
  if endsWith path artifact.extension then some artifact
  else if endsWith path source.extension then some source
  else none

end FileKind

/-! ## Files -/

/-- The state of a file's content. -/
inductive Content where
  /-- Text given from the start. -/
  | text (s : String)
  /-- Bytes that change no more. -/
  | frozen (bytes : Bytes)
  /-- An artifact that nobody has opened for writing. -/
  | unwritten
  /-- An artifact whose writer is open or was dropped. -/
  | opened
  deriving Repr, DecidableEq

/-- A source or artifact file. -/
structure File where
  uri : String
  name : String
  kind : FileKind
  content : Content
  deriving Repr, DecidableEq

namespace File

/-- A source with its text. -/
def source (name text : String) : File :=
  { uri := UnitName.fileUri name UnitName.sourceExtension, name, kind := .source, content := .text text }

/-- An artifact that nobody has opened for writing. -/
def artifact (name : String) : File :=
  { uri := UnitName.fileUri name UnitName.artifactExtension, name, kind := .artifact
    content := .unwritten }

/-- A file with given bytes. -/
def ofBytes (uri name : String) (kind : FileKind) (bytes : Bytes) : File :=
  { uri, name, kind, content := .frozen bytes }

/-- Whether the content of a file changes no more. -/
def isFrozen (f : File) : Bool :=
  match f.content with
  | .text _ | .frozen _ => true
  | .unwritten | .opened => false

/-- The source text of a file. -/
def text (f : File) : Except Failure String :=
  match f.content, f.kind with
  | .text s, _ => .ok s
  | .frozen bytes, .source =>
    (decodeUtf8 bytes).mapError fun fault => .exception "UnicodeDecodeError" fault.message
  | _, _ => .error (.error (.noSourceText f.uri f.name))

/-- The content of a file as bytes. -/
def bytes (f : File) : Except Failure Bytes :=
  match f.content with
  | .frozen bytes => .ok bytes
  | .text s => .ok (encodeUtf8 s)
  | .unwritten | .opened => .error (.error (.notWritten f.name))

/-- The greatest number that a signed word of 64 bits holds. -/
def greatestWord : Nat := twoTo 63 - 1

/-- Whether a number fits into a signed word of 64 bits. -/
def isWord (n : Int) : Bool := -(greatestWord : Int) - 1 ≤ n && n ≤ greatestWord

/-- The first bytes of a file, at most as many as asked for; all of them if no number is asked for,
or a negative one. -/
def first (f : File) (count : Option Int) : Except Failure Bytes := do
  let data ← f.bytes
  match count with
  | none => pure data
  | some n =>
    if !isWord n then
      throw (.exception "OverflowError" "cannot fit 'int' into an index-sized integer")
    else if n < 0 then pure data
    else pure (data.take n.toNat)

/-- A file after it has been opened for writing, which can be done once and with artifacts only. -/
def «open» (f : File) : Except Failure File :=
  match f.kind, f.content with
  | .source, _ => .error (.error (.readOnly f.uri))
  | .artifact, .unwritten => .ok { f with content := .opened }
  | .artifact, _ => .error (.error (.alreadyWritten f.name))

/-- A file with its final bytes. -/
def freeze (f : File) (bytes : Bytes) : File := { f with content := .frozen bytes }

/-- A file as a constructor applied to its address and kind. -/
def toText (f : File) : String := "VirtualFile(" ++ quote f.uri ++ ", kind=" ++ f.kind.label ++ ")"

end File

end UnitFoundry
