import UnitFoundry.Disk
import UnitFoundry.Failure
import UnitFoundry.Text.Lines

/-!
# Text files

A text file is read as UTF-8, with line feeds as its only line breaks.
-/

namespace UnitFoundry

open Text

/-- The text of a file. -/
def Disk.readText (disk : Disk) (path : Path) : Except Failure String :=
  match disk.read? path with
  | none => .error (.raised (Refusal.isDirectory.raised path))
  | some data =>
    match decodeUtf8 data with
    | .ok text => .ok (String.ofList (normalizeBreaks text.toList))
    | .error fault => .error (.exception "UnicodeDecodeError" fault.message)

end UnitFoundry
