import UnitFoundry.File.Writer
import UnitFoundry.ResourcePath

/-!
# The life of an artifact

An artifact is opened for writing at most once. While its writer is open nothing can be read; when the writer is
closed the artifact is frozen with the bytes that were written, and is so for ever. A writer that is dropped before
that leaves an artifact that can neither be read nor be opened again. Sources and files with given bytes are frozen
from the start.

* `Desk.Move`, `Desk.perform`, `Desk.history` — what is done with a file and its writers, and what came of it;
* `Summary` — what of a history counts: openings, the bytes written before the first closing, the closing itself;
* `LifeCycle` — the five stages, and what the desk looks like in each of them;
* `LifeCycle.next`, `LifeCycle.after` — **a move leads from a stage to a stage**, and so do many;
* `File.IsMade.written_once` — what can be told of a file from its history alone.
-/

namespace UnitFoundry

open Text

/-! ## Writers -/

namespace Writer

/-- Bytes written at the end of a buffer are appended to it. -/
theorem write_at_end {v v' : Writer} {data : Bytes} (h : v.write data = .ok v')
    (hend : v.closed = false → v.position = v.buffer.length) :
    v.closed = false ∧ v'.closed = false ∧ v'.buffer = v.buffer ++ data ∧
      v'.position = v'.buffer.length := by
  unfold Writer.write at h
  split at h
  · cases h
  · rename_i hopen
    have hopen : v.closed = false := Bool.eq_false_iff.2 hopen
    have hend := hend hopen
    split at h
    · rename_i hempty
      cases h
      rw [List.isEmpty_iff.1 hempty, List.append_nil]
      exact ⟨hopen, hopen, rfl, hend⟩
    · split at h
      · cases h
      · cases h
        refine ⟨hopen, hopen, ?_, ?_⟩
        · simp [Writer.overwrite, hend]
        · simp [Writer.overwrite, hend]

/-- What there is memory for can be written. -/
theorem write_fits {w : Writer} {data : Bytes} (hopen : w.closed = false)
    (hfits : w.position + data.length < memoryLimit) : ∃ v, w.write data = .ok v := by
  unfold write
  rw [if_neg (by rw [hopen]; exact Bool.false_ne_true)]
  split
  · exact ⟨_, rfl⟩
  · rw [oversize?, if_pos hfits]
    exact ⟨_, rfl⟩

end Writer

/-! ## Moves -/

namespace Desk

/-- What is done with a file, or with a writer on it. -/
inductive Move where
  | openOutput (id : String) (noted : Bool)
  | write (id : String) (data : Bytes)
  | close (id : String)
  | drop (id : String)
  | bytes
  | input (count : Option Int)
  | text

/-- What a move gives if it does not fail. -/
inductive Gain where
  | done
  | written (count : Nat)
  | bytes (data : Bytes)
  | text (s : String)

/-- A move with what came of it. -/
abbrev Entry : Type := Move × Except Failure Gain

/-- The writer with a number, which must be there. -/
def writer (d : Desk) (id : String) : Except Failure Writer :=
  match d.handle? id with
  | some h => .ok h.writer
  | none => .error (.exception "KeyError" (quote id))

/-- What a move gives, and the desk after it. -/
def perform (d : Desk) : Move → Except Failure (Gain × Desk)
  | .openOutput id noted => do pure (.done, ← d.open id noted)
  | .write id data => do
    let w ← (← d.writer id).write data
    pure (.written data.length, d.setWriter id w)
  | .close id => do
    let _ ← d.writer id
    pure (.done, d.close id)
  | .drop id => do
    let _ ← d.writer id
    pure (.done, d.drop id)
  | .bytes => do pure (.bytes (← d.file.bytes), d)
  | .input count => do pure (.bytes (← d.file.first count), d)
  | .text => do pure (.text (← d.file.text), d)

/-- What a move gives. -/
def outcome (d : Desk) (move : Move) : Except Failure Gain := (d.perform move).map (·.1)

/-- The desk after a move. One that fails changes nothing. -/
def next (d : Desk) (move : Move) : Desk :=
  match d.perform move with
  | .ok (_, t) => t
  | .error _ => d

/-- The desk after many moves. -/
def after (d : Desk) (moves : List Move) : Desk := moves.foldl next d

/-- Many moves with what came of them. -/
def history (d : Desk) : List Move → List Entry
  | [] => []
  | move :: moves => (move, d.outcome move) :: history (d.next move) moves

end Desk

/-! ## Histories -/

open Desk (Move Gain Entry)

/-- What of a history counts: the writers that were opened, each with whether its closing is to be noted, whether one
was closed, or dropped before that, and the bytes written until then, one after the other. -/
structure Summary where
  openings : List (String × Bool) := []
  closed : Bool := false
  dropped : Bool := false
  written : Bytes := []
  deriving DecidableEq

namespace Summary

/-- The summary of a history with one more entry. Moves that failed do not count. -/
def add (s : Summary) : Entry → Summary
  | (.openOutput id noted, .ok _) => { s with openings := s.openings ++ [(id, noted)] }
  | (.write _ data, .ok _) => if s.closed then s else { s with written := s.written ++ data }
  | (.close _, .ok _) => { s with closed := true }
  | (.drop _, .ok _) => if s.closed then s else { s with dropped := true }
  | _ => s

/-- The summary of a history. -/
def of (entries : List Entry) : Summary := entries.foldl add {}

variable {s : Summary}

theorem add_error (s : Summary) (move : Move) (why : Failure) : s.add (move, .error why) = s := by
  cases move <;> rfl

/-- The bytes written before the closing are those also afterwards. -/
theorem add_of_closed (h : s.closed = true) (entry : Entry) :
    (s.add entry).closed = true ∧ (s.add entry).written = s.written := by
  obtain ⟨move, result⟩ := entry
  cases result with
  | error why =>
    rw [add_error]
    exact ⟨h, rfl⟩
  | ok gain => cases move <;> simp [add, h]

/-- An entry takes no opening back. -/
theorem openings_add (s : Summary) (entry : Entry) : s.openings <+: (s.add entry).openings := by
  obtain ⟨move, result⟩ := entry
  cases result with
  | error why => exact (add_error s move why).symm ▸ List.prefix_refl s.openings
  | ok gain =>
    cases move with
    | openOutput id noted => exact List.prefix_append _ _
    | write | drop =>
      simp only [add]
      split <;> exact List.prefix_refl _
    | close | bytes | input | text => exact List.prefix_refl _

theorem openings_foldl (s : Summary) (entries : List Entry) :
    s.openings <+: (entries.foldl add s).openings := by
  induction entries generalizing s with
  | nil => exact List.prefix_refl _
  | cons entry entries ih => exact (openings_add s entry).trans (ih (s.add entry))

theorem foldl_of_closed (h : s.closed = true) (entries : List Entry) :
    (entries.foldl add s).closed = true ∧ (entries.foldl add s).written = s.written := by
  induction entries generalizing s with
  | nil => exact ⟨h, rfl⟩
  | cons entry entries ih =>
    obtain ⟨hclosed, hwritten⟩ := add_of_closed h entry
    rw [List.foldl_cons, ← hwritten]
    exact ih hclosed

end Summary

namespace Desk

variable {d : Desk}

theorem bind_eq_ok {α β : Type} {x : Except Failure α} {f : α → Except Failure β} {b : β}
    (h : x >>= f = .ok b) : ∃ a, x = .ok a ∧ f a = .ok b := by
  cases x with
  | error why => cases h
  | ok a => exact ⟨a, rfl, h⟩

theorem writer_eq_ok {id : String} {w : Writer} (h : d.writer id = .ok w) :
    ∃ handle, d.handle? id = some handle ∧ handle.writer = w := by
  unfold writer at h
  split at h
  · exact ⟨_, ‹_›, Except.ok.inj h⟩
  · cases h

theorem outcome_write {id : String} {v w : Writer} {data : Bytes} (hv : d.writer id = .ok v)
    (hw : v.write data = .ok w) : d.outcome (.write id data) = .ok (.written data.length) := by
  rw [outcome, perform, hv]
  show Except.map _ (v.write data >>= _) = _
  rw [hw]
  rfl

theorem outcome_close {id : String} {v : Writer} (hv : d.writer id = .ok v) : d.outcome (.close id) = .ok .done := by
  rw [outcome, perform, hv]
  rfl

theorem outcome_drop {id : String} {v : Writer} (hv : d.writer id = .ok v) : d.outcome (.drop id) = .ok .done := by
  rw [outcome, perform, hv]
  rfl

theorem after_append (d : Desk) (moves more : List Move) : d.after (moves ++ more) = (d.after moves).after more :=
  List.foldl_append

/-- What a move that does not fail does to the desk. -/
theorem perform_eq_ok {move : Move} {gain : Gain} {t : Desk} (h : d.perform move = .ok (gain, t)) :
    match move with
    | .openOutput id noted =>
      ∃ file, d.file.open = .ok file ∧ t = { d with file, handles := (id, { noted }) :: d.handles }
    | .write id data => ∃ h w, d.handle? id = some h ∧ h.writer.write data = .ok w ∧ t = d.setWriter id w
    | .close id => (∃ h, d.handle? id = some h) ∧ t = d.close id
    | .drop id => (∃ h, d.handle? id = some h) ∧ t = d.drop id
    | .bytes | .input _ | .text => t = d := by
  cases move with
  | openOutput id noted =>
    obtain ⟨opened, hopened, hlast⟩ := bind_eq_ok h
    cases hlast
    obtain ⟨file, hfile, hdesk⟩ := bind_eq_ok hopened
    cases hdesk
    exact ⟨file, hfile, rfl⟩
  | write id data =>
    obtain ⟨v, hv, hrest⟩ := bind_eq_ok h
    obtain ⟨w, hw, hlast⟩ := bind_eq_ok hrest
    cases hlast
    obtain ⟨handle, hhandle, rfl⟩ := writer_eq_ok hv
    exact ⟨handle, w, hhandle, hw, rfl⟩
  | close id =>
    obtain ⟨v, hv, hlast⟩ := bind_eq_ok h
    cases hlast
    obtain ⟨handle, hhandle, -⟩ := writer_eq_ok hv
    exact ⟨⟨handle, hhandle⟩, rfl⟩
  | drop id =>
    obtain ⟨v, hv, hlast⟩ := bind_eq_ok h
    cases hlast
    obtain ⟨handle, hhandle, -⟩ := writer_eq_ok hv
    exact ⟨⟨handle, hhandle⟩, rfl⟩
  | bytes | input | text =>
    obtain ⟨_, -, hlast⟩ := bind_eq_ok h
    cases hlast
    rfl

theorem next_of_ok {move : Move} {gain : Gain} {t : Desk} (h : d.perform move = .ok (gain, t)) :
    d.next move = t ∧ d.outcome move = .ok gain := by
  rw [next, outcome, h]
  exact ⟨rfl, rfl⟩

theorem next_of_error {move : Move} {why : Failure} (h : d.perform move = .error why) :
    d.next move = d ∧ d.outcome move = .error why := by
  rw [next, outcome, h]
  exact ⟨rfl, rfl⟩

end Desk

/-! ## Stages -/

/-- An artifact that nobody has opened for writing. -/
def File.IsFresh (f : File) : Prop := f.kind = .artifact ∧ f.content = .unwritten

instance (f : File) : Decidable f.IsFresh := instDecidableAnd

theorem File.open_of_isFresh {f : File} (h : f.IsFresh) : f.open = .ok { f with content := .opened } := by
  unfold File.open
  rw [h.1, h.2]

/-- Only such a file can be opened. Any other one reports its state. -/
theorem File.open_of_not_isFresh {f : File} (h : ¬ f.IsFresh) :
    ∃ e : FoundryError, e.kind = .artifactState ∧ f.open = .error (.error e) := by
  unfold File.open
  split
  · exact ⟨_, rfl, rfl⟩
  · exact absurd ⟨‹_›, ‹_›⟩ h
  · exact ⟨_, rfl, rfl⟩

/-- The stages in the life of a file: what its history comes to, and what the desk is like. -/
inductive LifeCycle (f : File) : Summary → Desk → Prop
  /-- A file that has had its content from the start. -/
  | given (frozen : f.isFrozen = true) : LifeCycle f {} { file := f }
  | unopened (fresh : f.IsFresh) : LifeCycle f {} { file := f }
  | writing (fresh : f.IsFresh) (id : String) (noted : Bool) (data : Bytes) :
      LifeCycle f { openings := [(id, noted)], written := data }
        { file := { f with content := .opened }
          handles := [(id, { writer := { buffer := data, position := data.length }, noted })] }
  /-- Writers may still be around, but they are closed. -/
  | frozen (fresh : f.IsFresh) (id : String) (noted : Bool) (data : Bytes) (handles : List (String × Handle))
      (closed : ∀ h ∈ handles, h.2.writer.closed = true) :
      LifeCycle f { openings := [(id, noted)], closed := true, written := data }
        { file := f.freeze data, handles, closings := if noted then [(id, data)] else [] }
  | abandoned (fresh : f.IsFresh) (id : String) (noted : Bool) (data : Bytes) :
      LifeCycle f { openings := [(id, noted)], dropped := true, written := data }
        { file := { f with content := .opened } }

namespace LifeCycle

variable {f file : File} {s : Summary} {d : Desk} {id : String} {noted : Bool} {data : Bytes} {h : Handle} {w : Writer}

/-- A file is opened only before anything else has been done with it. -/
theorem isFresh_iff (hd : LifeCycle f s d) : d.file.IsFresh ↔ f.isFrozen = false ∧ s.openings = [] := by
  cases hd with
  | given frozen =>
    have hfrozen : ¬ f.IsFresh := fun fresh => by simp [File.isFrozen, fresh.2] at frozen
    simp [hfrozen, frozen]
  | unopened fresh => simp [fresh, File.isFrozen, fresh.2]
  | writing | abandoned | frozen => simp [File.IsFresh, File.freeze]

/-- The writer of a desk with one writer. -/
theorem handle?_singleton {other : String} {handle : Handle} {t : Desk} (ht : t.handles = [(other, handle)])
    (hhandle : t.handle? id = some h) : id = other ∧ h = handle := by
  rw [Desk.handle?, ht] at hhandle
  by_cases hother : other = id
  · simp [hother] at hhandle
    exact ⟨hother.symm, hhandle.symm⟩
  · simp [hother] at hhandle

theorem closed_of_handle? {t : Desk} (closed : ∀ h ∈ t.handles, h.2.writer.closed = true)
    (hhandle : t.handle? id = some h) : h.writer.closed = true := by
  obtain ⟨entry, hentry, rfl⟩ := Option.map_eq_some_iff.1 hhandle
  exact closed entry (List.mem_of_find?_eq_some hentry)

/-- A file is opened. -/
theorem opened (hd : LifeCycle f s d) (hopen : d.file.open = .ok file) (gain : Gain) :
    LifeCycle f (s.add (.openOutput id noted, .ok gain))
      { d with file, handles := (id, { noted }) :: d.handles } := by
  have hfresh : d.file.IsFresh := Decidable.byContradiction fun hfresh => by
    obtain ⟨e, -, herror⟩ := File.open_of_not_isFresh hfresh
    cases hopen.symm.trans herror
  rw [File.open_of_isFresh hfresh] at hopen
  obtain rfl := Except.ok.inj hopen
  obtain ⟨hfrozen, hunopened⟩ := hd.isFresh_iff.1 hfresh
  cases hd with
  | given frozen => simp [frozen] at hfrozen
  | unopened fresh => exact .writing fresh id noted []
  | writing | frozen | abandoned => cases hunopened

/-- Bytes are written, which can only be done while the writer is open. -/
theorem wrote (hd : LifeCycle f s d) (hhandle : d.handle? id = some h) (hwrite : h.writer.write data = .ok w)
    (gain : Gain) : LifeCycle f (s.add (.write id data, .ok gain)) (d.setWriter id w) := by
  cases hd with
  | given | unopened | abandoned => cases hhandle
  | writing fresh other noted old =>
    obtain ⟨rfl, rfl⟩ := handle?_singleton rfl hhandle
    obtain ⟨-, hopen, hbuffer, hend⟩ := Writer.write_at_end hwrite fun _ => rfl
    obtain rfl : w = { buffer := old ++ data, position := (old ++ data).length } := by
      cases w
      simp_all
    simpa [Desk.setWriter, Summary.add] using writing fresh id noted (old ++ data)
  | frozen fresh other noted old handles closed =>
    rw [Writer.write, if_pos (closed_of_handle? closed hhandle)] at hwrite
    cases hwrite

/-- A writer is closed, for the first time or again. -/
theorem closed (hd : LifeCycle f s d) (hhandle : d.handle? id = some h) (gain : Gain) :
    LifeCycle f (s.add (.close id, .ok gain)) (d.close id) := by
  cases hd with
  | given | unopened | abandoned => cases hhandle
  | writing fresh other noted data =>
    obtain ⟨rfl, rfl⟩ := handle?_singleton rfl hhandle
    have hfrozen := frozen fresh id noted data
      [(id, { writer := { buffer := data, position := data.length, closed := true }, noted })] (by simp)
    rw [Desk.close, hhandle]
    cases noted <;> simpa [Desk.setWriter, Desk.note, File.freeze, File.bytes, Summary.add] using hfrozen
  | frozen fresh other noted data handles closed =>
    rw [Desk.close, hhandle]
    dsimp only
    rw [if_pos (closed_of_handle? closed hhandle)]
    exact frozen fresh other noted data handles closed

/-- A writer is dropped. -/
theorem dropped (hd : LifeCycle f s d) (hhandle : d.handle? id = some h) (gain : Gain) :
    LifeCycle f (s.add (.drop id, .ok gain)) (d.drop id) := by
  cases hd with
  | given | unopened | abandoned => cases hhandle
  | writing fresh other noted data =>
    obtain ⟨rfl, rfl⟩ := handle?_singleton rfl hhandle
    simpa [Desk.drop, Summary.add] using abandoned fresh id noted data
  | frozen fresh other noted data handles closed =>
    exact frozen fresh other noted data _ fun entry hentry => closed entry (List.mem_filter.1 hentry).1

/-- **A move leads from a stage to a stage.** -/
theorem next (hd : LifeCycle f s d) (move : Move) :
    LifeCycle f (s.add (move, d.outcome move)) (d.next move) := by
  cases hperform : d.perform move with
  | error why =>
    obtain ⟨hnext, houtcome⟩ := Desk.next_of_error hperform
    rw [hnext, houtcome, Summary.add_error]
    exact hd
  | ok result =>
    obtain ⟨gain, t⟩ := result
    obtain ⟨hnext, houtcome⟩ := Desk.next_of_ok hperform
    rw [hnext, houtcome]
    have hmove := Desk.perform_eq_ok hperform
    cases move with
    | openOutput id noted =>
      obtain ⟨file, hopen, rfl⟩ := hmove
      exact hd.opened hopen gain
    | write id data =>
      obtain ⟨h, w, hhandle, hwrite, rfl⟩ := hmove
      exact hd.wrote hhandle hwrite gain
    | close id =>
      obtain ⟨⟨h, hhandle⟩, rfl⟩ := hmove
      exact hd.closed hhandle gain
    | drop id =>
      obtain ⟨⟨h, hhandle⟩, rfl⟩ := hmove
      exact hd.dropped hhandle gain
    | bytes | input | text => exact hmove ▸ hd

/-- **Many moves lead from a stage to a stage.** -/
theorem after (hd : LifeCycle f s d) (moves : List Move) :
    LifeCycle f ((d.history moves).foldl Summary.add s) (d.after moves) := by
  induction moves generalizing s d with
  | nil => exact hd
  | cons move moves ih => exact ih (hd.next move)

end LifeCycle

/-! ## What a history tells -/

/-- What can be told of a file, and of the desk, from the summary of a history. -/
structure WrittenOnce (f : File) (s : Summary) (d : Desk) : Prop where
  once : s.openings.length ≤ 1
  given : f.isFrozen = true → s.openings = [] ∧ d = { file := f }
  /-- The first opening succeeds, unless the file was frozen from the start. Any other one changes nothing. -/
  opening : ∀ (id : String) (noted : Bool),
    (f.isFrozen = false ∧ s.openings = [] ∧ d.outcome (.openOutput id noted) = .ok .done) ∨
    (f.isFrozen = true ∨ s.openings ≠ []) ∧ d.next (.openOutput id noted) = d ∧
      ∃ e : FoundryError, e.kind = .artifactState ∧ d.outcome (.openOutput id noted) = .error (.error e)
  /-- As long as a writer is neither closed nor dropped, it can be used. -/
  writing : ∀ (id : String) (noted : Bool), s.openings = [(id, noted)] → s.closed = false → s.dropped = false →
    (∀ data : Bytes, s.written.length + data.length < Writer.memoryLimit →
      d.outcome (.write id data) = .ok (.written data.length)) ∧
    d.outcome (.close id) = .ok .done ∧ d.outcome (.drop id) = .ok .done
  unreadable : f.isFrozen = false → s.closed = false → ∃ e : FoundryError, e.kind = .artifactState ∧
    d.outcome .bytes = .error (.error e) ∧ ∀ count, d.outcome (.input count) = .error (.error e)
  readable : s.closed = true → d.outcome .bytes = .ok (.bytes s.written) ∧
    d.outcome (.input none) = .ok (.bytes s.written)
  /-- The closing is noted once, if it is to be, and by then the file has the bytes that were written. -/
  noted : d.closings = if s.closed then (s.openings.filter (·.2)).map fun opening => (opening.1, s.written) else []
  dropped : s.dropped = true → s.closed = false ∧ s.openings ≠ []

namespace LifeCycle

variable {f : File} {s : Summary} {d : Desk}

/-- A file that nobody has opened is opened, and any other one is not. -/
theorem outcome_open (hd : LifeCycle f s d) (id : String) (noted : Bool) :
    (f.isFrozen = false ∧ s.openings = [] ∧ d.outcome (.openOutput id noted) = .ok .done) ∨
    (f.isFrozen = true ∨ s.openings ≠ []) ∧ d.next (.openOutput id noted) = d ∧
      ∃ e : FoundryError, e.kind = .artifactState ∧ d.outcome (.openOutput id noted) = .error (.error e) := by
  by_cases hfresh : d.file.IsFresh
  · obtain ⟨hfrozen, hunopened⟩ := hd.isFresh_iff.1 hfresh
    refine .inl ⟨hfrozen, hunopened, ?_⟩
    rw [Desk.outcome, Desk.perform, Desk.open, File.open_of_isFresh hfresh]
    rfl
  · obtain ⟨e, hkind, herror⟩ := File.open_of_not_isFresh hfresh
    have hperform : d.perform (.openOutput id noted) = .error (.error e) := by
      rw [Desk.perform, Desk.open, herror]
      rfl
    obtain ⟨hnext, houtcome⟩ := Desk.next_of_error hperform
    refine .inr ⟨?_, hnext, e, hkind, houtcome⟩
    rw [hd.isFresh_iff] at hfresh
    cases hfrozen : f.isFrozen with
    | true => exact .inl rfl
    | false => exact .inr fun hunopened => hfresh ⟨hfrozen, hunopened⟩

/-- The writer that is open can be used. -/
theorem outcome_writing (hd : LifeCycle f s d) {id : String} {noted : Bool} (hopened : s.openings = [(id, noted)])
    (hclosed : s.closed = false) (hdropped : s.dropped = false) :
    (∀ data : Bytes, s.written.length + data.length < Writer.memoryLimit →
      d.outcome (.write id data) = .ok (.written data.length)) ∧
    d.outcome (.close id) = .ok .done ∧ d.outcome (.drop id) = .ok .done := by
  cases hd with
  | given | unopened => cases hopened
  | frozen => cases hclosed
  | abandoned => cases hdropped
  | writing fresh id noted data =>
    cases hopened
    have hwriter : Desk.writer
        { file := { f with content := .opened }
          handles := [(id, { writer := { buffer := data, position := data.length }, noted })] } id =
        .ok { buffer := data, position := data.length } := by
      simp [Desk.writer, Desk.handle?]
    refine ⟨fun more hfits => ?_, Desk.outcome_close hwriter, Desk.outcome_drop hwriter⟩
    have hopen : Writer.closed { buffer := data, position := data.length } = false := rfl
    obtain ⟨w, hw⟩ := Writer.write_fits hopen hfits
    exact Desk.outcome_write hwriter hw

/-- Before the closing nothing can be read, and afterwards what was written. -/
theorem outcome_bytes (hd : LifeCycle f s d) :
    (f.isFrozen = false → s.closed = false → ∃ e : FoundryError, e.kind = .artifactState ∧
      d.outcome .bytes = .error (.error e) ∧ ∀ count, d.outcome (.input count) = .error (.error e)) ∧
    (s.closed = true → d.outcome .bytes = .ok (.bytes s.written) ∧
      d.outcome (.input none) = .ok (.bytes s.written)) := by
  cases hd with
  | given frozen => exact ⟨fun hnot => (by cases frozen.symm.trans hnot), nofun⟩
  | unopened fresh =>
    obtain ⟨uri, name, kind, content⟩ := f
    obtain ⟨rfl, rfl⟩ := fresh
    exact ⟨fun _ _ => ⟨FoundryError.notWritten name, rfl, rfl, fun _ => rfl⟩, nofun⟩
  | writing | abandoned => exact ⟨fun _ _ => ⟨FoundryError.notWritten f.name, rfl, rfl, fun _ => rfl⟩, nofun⟩
  | frozen => exact ⟨nofun, fun _ => ⟨rfl, rfl⟩⟩

/-- **What a stage tells.** -/
theorem writtenOnce (hd : LifeCycle f s d) : WrittenOnce f s d where
  once := by cases hd <;> simp
  given frozen := by
    cases hd with
    | given | unopened => exact ⟨rfl, rfl⟩
    | writing fresh | frozen fresh | abandoned fresh => simp [File.isFrozen, fresh.2] at frozen
  opening := hd.outcome_open
  writing _ _ := hd.outcome_writing
  unreadable := hd.outcome_bytes.1
  readable := hd.outcome_bytes.2
  noted := by
    cases hd with
    | frozen fresh id noted => cases noted <;> rfl
    | given | unopened | writing | abandoned => rfl
  dropped hdropped := by
    cases hd with
    | abandoned => exact ⟨rfl, List.cons_ne_nil _ _⟩
    | given | unopened | writing | frozen => cases hdropped

/-- A closing is of a writer that was opened. -/
theorem openings_length (hd : LifeCycle f s d) (hclosed : s.closed = true) : s.openings.length = 1 := by
  cases hd with
  | frozen => rfl
  | given | unopened | writing | abandoned => cases hclosed

end LifeCycle

/-! ## Files -/

/-- The files that are made: sources, artifacts, and those of the places of a resource path. -/
inductive File.IsMade : File → Prop
  | source (name text : String) : IsMade (.source name text)
  | artifact (name : String) : IsMade (.artifact name)
  | resource (disk : Disk) (place : Path) (path : String) (data : Bytes) :
      IsMade (ResourcePath.fileIn disk place path data)

variable {f : File}

theorem LifeCycle.start (hf : f.IsMade) : LifeCycle f {} { file := f } := by
  cases hf with
  | source => exact .given rfl
  | artifact => exact .unopened ⟨rfl, rfl⟩
  | resource => exact .given rfl

/-- **A file is written at most once**, whatever is done with it and with its writers, and what can be read from the
closing on is what was written before it. -/
theorem File.IsMade.written_once (hf : f.IsMade) (moves : List Move) :
    let d := Desk.after { file := f } moves
    let s := Summary.of (Desk.history { file := f } moves)
    WrittenOnce f s d ∧ (s.closed = true → ∀ more,
      let later := Desk.after { file := f } (moves ++ more)
      later.outcome .bytes = .ok (.bytes s.written) ∧ later.outcome (.input none) = .ok (.bytes s.written) ∧
        later.closings = d.closings) := by
  intro d s
  have hd : LifeCycle f s d := (LifeCycle.start hf).after moves
  refine ⟨hd.writtenOnce, fun hclosed more => ?_⟩
  intro later
  have hlater : LifeCycle f ((d.history more).foldl Summary.add s) later := by
    rw [show later = d.after more from Desk.after_append ..]
    exact hd.after more
  obtain ⟨hstill, hwritten⟩ := Summary.foldl_of_closed hclosed (d.history more)
  have hopenings := (Summary.openings_foldl s (d.history more)).eq_of_length
    ((hd.openings_length hclosed).trans (hlater.openings_length hstill).symm)
  obtain ⟨hbytes, hinput⟩ := hlater.writtenOnce.readable hstill
  rw [hwritten] at hbytes hinput
  refine ⟨hbytes, hinput, ?_⟩
  rw [hlater.writtenOnce.noted, hd.writtenOnce.noted, hstill, hclosed, hwritten, ← hopenings]

/-- A second writer is asked for while the first one is open, and the first one is closed twice. -/
def publishing : List Move :=
  [.openOutput "w" true, .write "w" [1, 2], .bytes, .openOutput "v" true, .write "w" [3], .close "w", .close "w"]

/-- The closing is noted once, and the bytes of both writes are read, whatever is done afterwards. -/
theorem publishing_written_once :
    (File.artifact "p.A_ts1").IsMade ∧
    let d := Desk.after { file := File.artifact "p.A_ts1" } publishing
    d.closings = [("w", [1, 2, 3])] ∧
    (∃ e : FoundryError, e.kind = .artifactState ∧ d.outcome (.openOutput "v" false) = .error (.error e)) ∧
    ∀ more, (Desk.after { file := File.artifact "p.A_ts1" } (publishing ++ more)).outcome .bytes =
      .ok (.bytes [1, 2, 3]) := by
  have hmade := File.IsMade.artifact "p.A_ts1"
  have hsummary : Summary.of (Desk.history { file := File.artifact "p.A_ts1" } publishing) =
      { openings := [("w", true)], closed := true, written := [1, 2, 3] } := by decide +kernel
  obtain ⟨honce, hlater⟩ := hmade.written_once publishing
  rw [hsummary] at honce hlater
  refine ⟨hmade, honce.noted, ?_, fun more => (hlater rfl more).1⟩
  obtain ⟨-, hunopened, -⟩ | ⟨-, -, herror⟩ := honce.opening "v" false
  · cases hunopened
  · exact herror

end UnitFoundry
