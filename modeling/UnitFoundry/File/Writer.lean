import UnitFoundry.File

/-!
# Writers

A writer gathers the bytes of an artifact and remembers a position in them. Writing past the end
fills the gap with zeros. When a writer is closed, its artifact is frozen with the bytes it holds,
and what waits for the artifact is told; a writer that is dropped unclosed does neither.

* `Writer.write`, `Writer.seek`, `Writer.truncate` — the operations of an open writer;
* `Desk` — one file and all the writers that have been opened on it.
-/

namespace UnitFoundry

open UnitFoundry.Text

/-- The bytes written so far, the position of the next byte, and whether the writer was closed. -/
structure Writer where
  buffer : Bytes := []
  position : Nat := 0
  closed : Bool := false
  deriving Repr, DecidableEq

namespace Writer

/-- The failure of any operation on a closed writer. -/
def closedFailure : Failure := .exception "ValueError" "I/O operation on closed file."

/-- Bytes with some of them overwritten, from a position that may lie past the end. -/
def overwrite (buffer : Bytes) (position : Nat) (data : Bytes) : Bytes :=
  buffer.take position ++ List.replicate (position - buffer.length) 0 ++ data ++
    buffer.drop (position + data.length)

/-- The greatest number of bytes that there is memory for. -/
def memoryLimit : Nat := twoTo 40

/-- Why a buffer cannot have a size, if it cannot: sizes are signed words, and memory is finite. -/
def oversize? (size : Nat) : Option Failure :=
  if size < memoryLimit then none
  else if File.greatestWord < size then some (.exception "OverflowError" "new buffer size too large")
  else if size = File.greatestWord then
    some (.exception "SystemError" "Negative size passed to PyBytes_FromStringAndSize")
  else some (.exception "MemoryError" "")

/-- A writer after some bytes have been written. Writing nothing changes nothing. -/
def write (w : Writer) (data : Bytes) : Except Failure Writer :=
  if w.closed then .error closedFailure
  else if data.isEmpty then .ok w
  else
    match oversize? (w.position + data.length) with
    | some failure => .error failure
    | none => .ok { w with
        buffer := overwrite w.buffer w.position data
        position := w.position + data.length }

/-- A writer at another position. -/
def seek (w : Writer) (position : Int) : Except Failure Writer :=
  if !File.isWord position then
    .error (.exception "OverflowError" "Python int too large to convert to C ssize_t")
  else if w.closed then .error closedFailure
  else if position < 0 then
    .error (.exception "ValueError" ("negative seek value " ++ showInt position))
  else .ok { w with position := position.toNat }

/-- A writer without the bytes from its position on. -/
def truncate (w : Writer) : Except Failure Writer :=
  if w.closed then .error closedFailure
  else .ok { w with buffer := w.buffer.take w.position }

end Writer

/-! ## A file and its writers -/

/-- A writer on a desk, and whether its closing is to be noted. -/
structure Handle where
  writer : Writer := {}
  noted : Bool := false
  deriving Repr

/-- One file, the writers opened on it by their numbers, and the notes of the noted closings: which
writer, and the bytes of the file at that moment. -/
structure Desk where
  file : File
  handles : List (String × Handle) := []
  closings : List (String × Bytes) := []

namespace Desk

/-- A desk after one more writer has been opened under a number. -/
def «open» (d : Desk) (id : String) (noted : Bool) : Except Failure Desk := do
  let file ← d.file.open
  pure { d with file, handles := (id, { noted }) :: d.handles }

/-- The writer with a number. -/
def handle? (d : Desk) (id : String) : Option Handle := (d.handles.find? (·.1 = id)).map (·.2)

/-- A desk with one writer changed. -/
def setWriter (d : Desk) (id : String) (w : Writer) : Desk :=
  { d with handles := d.handles.map fun (i, h) => if i = id then (i, { h with writer := w }) else (i, h) }

/-- A desk with a note that a writer was closed, and of the bytes that the file has at this moment. -/
def note (d : Desk) (id : String) : Desk :=
  match d.file.bytes with
  | .ok data => { d with closings := d.closings ++ [(id, data)] }
  | .error _ => d

/-- A desk after a writer has been closed: the file is frozen the first time only, and what waits
for it is told after that. -/
def close (d : Desk) (id : String) : Desk :=
  match d.handle? id with
  | some h =>
    if h.writer.closed then d
    else
      let frozen := { d with file := d.file.freeze h.writer.buffer }
      let closed := frozen.setWriter id { h.writer with closed := true }
      if h.noted then closed.note id else closed
  | none => d

/-- A desk without one of its writers, which was not closed. -/
def drop (d : Desk) (id : String) : Desk := { d with handles := d.handles.filter (·.1 != id) }

end Desk

end UnitFoundry
