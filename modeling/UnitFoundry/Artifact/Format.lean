import UnitFoundry.Artifact.Serial
import UnitFoundry.Failure

/-!
# The layout of an artifact

An artifact is a header of sixteen bytes and the payload. The header has four words: the magic
number of the format, flags, the time of modification and the size of the source.

* `encode` — the artifact of some code;
* `decode` — the code of an artifact.
-/

namespace UnitFoundry.Artifact

open UnitFoundry.Text

/-- The number of bytes of the header. -/
def headerSize : Nat := 16

/-- The bytes that every artifact begins with. -/
def magic : Bytes := [0xA7, 0x0D, 0x0D, 0x0A]

/-- A time without the fraction of a second. -/
def wholeSeconds (t : Rat) : Int := if t < 0 then t.ceil else t.floor

/-- The header of an artifact. -/
def header (sourceSize : Int) (modified : Rat) : Bytes :=
  magic ++ encodeWord 0 ++ encodeWord (wholeSeconds modified) ++ encodeWord sourceSize

/-- The artifact of some code. -/
def encode (code : Code) (sourceSize : Int) (modified : Rat) : Bytes :=
  header sourceSize modified ++ encodeCode code

/-- Whether an exception says that a payload is corrupt. -/
def isCorruption (why : Raised) : Bool :=
  ["EOFError", "ValueError", "TypeError"].any (isKind why.kind)

/-- The code of an artifact; `name` is the unit that errors speak of. -/
def decode (name : String) (data : Bytes) : Except Failure Code :=
  if data.length < headerSize then .error (.error (.truncated name data.length))
  else if data.take 4 ≠ magic then .error (.error (.foreignMagic name))
  else
    match readPayload (data.drop headerSize) with
    | .error why => .error (if isCorruption why then .error (.corrupt name why) else .raised why)
    | .ok (.code code) => .ok code
    | .ok _ => .error (.error (.notCode name))

/-- The size of the source as an artifact records it. -/
def recordedSize (data : Bytes) : Nat := decodeWord ((data.drop 12).take 4)

end UnitFoundry.Artifact
