import UnitFoundry.Overlay
import UnitFoundry.Proofs.Entries
import UnitFoundry.Proofs.Operations
import UnitFoundry.Proofs.ResourcePath.Surroundings

/-!
# Where content comes from

What is taken from the resource path is kept somewhere: in an archive under the name that was asked for, or at the
place of the tree that the path leads to from a directory. This place is beneath the directory as long as the path
does not climb, that is, as long as no `..` in it takes away more than the components before it have added. A path
that climbs is followed out of the directory, to wherever it leads.

* `Path.climbs`, `prefix_foldl_step` — paths that lead above their start, and those that do not;
* `ResourcePath.Origin`, `ResourcePath.Supplies` — where the content of a file is kept that is found;
* `ResourcePath.Owns` — the origins beneath the directories and in the archives of a resource path;
* `Supplies.owns_iff` — **what is found is beneath a directory exactly if the path leads below one**;
* `Session.Takes` — the ways in which content is taken from the resource path;
* `Takes.contained_iff` — **all of them**, for the places of any list of locations.
-/

namespace UnitFoundry

open Text

/-! ## Paths that climb -/

namespace Path

variable {p : Path} {s : String} {root kept parts : List String}

/-- Whether components lead above the place that they start from, if some lead down to there already. -/
def climbs : Nat → List String → Bool
  | _, [] => false
  | depth, part :: rest =>
    if part = ".." then depth = 0 || climbs (depth - 1) rest else climbs (depth + 1) rest

/-- The place that a text leads to, read as a path from another place. -/
def landing (p : Path) (s : String) : List String := (ofString s).parts.foldl step p.parts

/-- **Components that do not climb stay below the place that they start from.** -/
theorem prefix_foldl_step (h : climbs kept.length parts = false) : root <+: parts.foldl step (root ++ kept) := by
  induction parts generalizing kept with
  | nil => exact List.prefix_append root kept
  | cons part rest ih =>
    rw [climbs] at h
    rw [List.foldl_cons, step]
    by_cases hup : part = ".."
    · rw [if_pos hup, Bool.or_eq_false_iff, decide_eq_false_iff_not] at h
      have hkept : kept ≠ [] := fun hnil => h.1 (List.length_eq_zero_iff.2 hnil)
      rw [if_pos hup, List.dropLast_append_of_ne_nil hkept]
      exact ih (List.length_dropLast ▸ h.2)
    · rw [if_neg hup] at h
      rw [if_neg hup, List.append_assoc]
      exact ih (by rwa [List.length_append])

/-- The components of a path do not depend on the slashes before it. -/
theorem parts_ofString_dropWhile (s : String) :
    (ofString (String.ofList (s.toList.dropWhile (· = '/')))).parts = (ofString s).parts := by
  have hpieces (l : List Char) :
      ((splitOn '/' (l.dropWhile (· = '/'))).map String.ofList).filter (fun part => !part.isEmpty && part != ".") =
        ((splitOn '/' l).map String.ofList).filter fun part => !part.isEmpty && part != "." := by
    induction l with
    | nil => rfl
    | cons c l ih =>
      by_cases hc : c = '/'
      · rw [List.dropWhile_cons_of_pos (by simpa using hc), ih, splitOn, if_pos hc]
        rfl
      · rw [List.dropWhile_cons_of_neg (by simpa using hc)]
  simp only [ofString, pieces, String.toList_ofList]
  exact hpieces s.toList

/-- A text that does not begin with a slash leads on from where it is read. -/
theorem locate_append_eq_ok {d : Disk} {place : List String} (hp : p.IsResolved) (hs : s.toList.head? ≠ some '/')
    (h : d.locate (p.append s) = .ok place) : place = p.landing s := by
  rw [append_of_relative hs] at h
  have hwalk := Disk.locate_eq_ok h
  have habsolute : (p.extended (ofString s).parts).isAbsolute = true := hp.absolute
  rw [if_pos habsolute] at hwalk
  rw [← Disk.foldl_step_of_walk hwalk, extended, List.foldl_append, foldl_step hp.down]
  rfl

end Path

/-- The regular file that a path leads to. -/
theorem Disk.find_eq_some {d : Disk} {p : Path} {data : Bytes} : d.find p = .ok (some data) ↔
    hasNull p = false ∧ ∃ place, d.locate p = .ok place ∧ (d.get? place).bind content? = some data := by
  rw [find, look]
  cases hasNull p with
  | true => simp [Except.map]
  | false =>
    cases d.locate p with
    | ok place => simp [Except.map]
    | error r => cases r <;> simp [Except.map]

/-! ## Origins -/

namespace ResourcePath

variable {r : ResourcePath} {d : Disk} {p q : Path} {path : String} {data : Bytes} {file : File}

/-- The place where the content of a file is kept. -/
inductive Origin where
  /-- A place of the tree. -/
  | place (place : List String)
  /-- An entry of an archive. -/
  | entry (archive : Path) (name : String)

/-- The content of the file that a place of the resource path has at a path, with its origin. -/
inductive KeptIn (d : Disk) (p : Path) (path : String) : Origin → Bytes → Prop
  | file {place : List String} {data : Bytes} (directory : d.node? p = some .directory)
      (null : Disk.hasNull (p.append path) = false) (located : d.locate (p.append path) = .ok place)
      (content : (d.get? place).bind Disk.content? = some data) : KeptIn d p path (.place place) data
  | entry {entries : List (String × Bytes)} {data : Bytes} (archive : d.node? p = some (.archive entries))
      (last : lookupEntry path entries.reverse = some data) : KeptIn d p path (.entry p path) data

theorem readIn_eq_some : readIn d p path = .ok (some data) ↔ ∃ o, KeptIn d p path o data := by
  constructor
  · intro h
    rw [readIn] at h
    split at h
    · rename_i hdirectory
      obtain ⟨hnull, place, hplace, hdata⟩ := Disk.find_eq_some.1 h
      exact ⟨_, .file hdirectory hnull hplace hdata⟩
    · rename_i entries harchive
      exact ⟨_, .entry harchive (Except.ok.inj h)⟩
    · cases h
  · rintro ⟨_, ⟨hdirectory, hnull, hplace, hdata⟩ | ⟨harchive, hlast⟩⟩
    · rw [readIn, hdirectory]
      exact Disk.find_eq_some.2 ⟨hnull, _, hplace, hdata⟩
    · rw [readIn, harchive]
      exact congrArg Except.ok hlast

/-- A path without the slashes at its start. -/
def unrooted (path : String) : String := String.ofList (path.toList.dropWhile (· = '/'))

/-- The first place that has a file at a path, with the content of the file and its origin. -/
structure Supplies (r : ResourcePath) (d : Disk) (path : String) (p : Path) (o : Origin) (data : Bytes) : Prop where
  first : ∃ before after, r.places = before ++ p :: after ∧ ∀ q ∈ before, readIn d q (unrooted path) = .ok none
  kept : KeptIn d p (unrooted path) o data

/-- What is found is what the first place supplies. -/
theorem find_eq_some : r.find d path = .ok (some file) ↔
    ∃ p o data, r.Supplies d path p o data ∧ fileIn d p (unrooted path) data = file := by
  have hfind (places : List Path) : findIn d (unrooted path) places = .ok (some file) ↔
      ∃ before p after data, places = before ++ p :: after ∧ (∀ q ∈ before, readIn d q (unrooted path) = .ok none) ∧
        readIn d p (unrooted path) = .ok (some data) ∧ fileIn d p (unrooted path) data = file := by
    induction places with
    | nil => simp [findIn]
    | cons p places ih =>
      rw [findIn]
      cases hread : readIn d p (unrooted path) with
      | error why =>
        refine iff_of_false (fun h => by cases h) ?_
        rintro ⟨_ | ⟨q, before⟩, p', after, data, heq, hbefore, hp', -⟩ <;> cases heq
        · cases hread.symm.trans hp'
        · cases hread.symm.trans (hbefore p List.mem_cons_self)
      | ok found =>
        cases found with
        | some data =>
          constructor
          · intro h
            exact ⟨[], p, places, data, rfl, List.forall_mem_nil _, hread, Option.some.inj (Except.ok.inj h)⟩
          · rintro ⟨_ | ⟨q, before⟩, p', after, data', heq, hbefore, hp', rfl⟩ <;> cases heq
            · cases hread.symm.trans hp'
              rfl
            · cases hread.symm.trans (hbefore p List.mem_cons_self)
        | none =>
          refine Iff.trans ih ⟨?_, ?_⟩
          · rintro ⟨before, p', after, data, rfl, hbefore, hp'⟩
            exact ⟨p :: before, p', after, data, rfl, List.forall_mem_cons.2 ⟨hread, hbefore⟩, hp'⟩
          · rintro ⟨_ | ⟨q, before⟩, p', after, data, heq, hbefore, hp', hfile⟩ <;> cases heq
            · cases hread.symm.trans hp'
            · exact ⟨before, p', after, data, rfl, (List.forall_mem_cons.1 hbefore).2, hp', hfile⟩
  refine (hfind r.places).trans ⟨?_, ?_⟩
  · rintro ⟨before, p, after, data, hplaces, hbefore, hread, hfile⟩
    obtain ⟨o, hkept⟩ := readIn_eq_some.1 hread
    exact ⟨p, o, data, ⟨⟨before, after, hplaces, hbefore⟩, hkept⟩, hfile⟩
  · rintro ⟨p, o, data, ⟨⟨before, after, hplaces, hbefore⟩, hkept⟩, hfile⟩
    exact ⟨before, p, after, data, hplaces, hbefore, readIn_eq_some.2 ⟨o, hkept⟩, hfile⟩

theorem Supplies.mem {o : Origin} (h : r.Supplies d path p o data) : p ∈ r.places := by
  obtain ⟨before, after, hplaces, -⟩ := h.first
  simp [hplaces]

/-- The origins that are beneath one of the directories, or in one of the archives, of a resource path. -/
def Owns (r : ResourcePath) (d : Disk) : Origin → Prop
  | .place place => ∃ q ∈ r.places, d.node? q = some .directory ∧
      ∃ root, d.locate q = .ok root ∧ Disk.isBelow root place = true
  | .entry archive name => archive ∈ r.places ∧
      ∃ entries, d.node? archive = some (.archive entries) ∧ name ∈ entries.map (·.1)

/-- A regular file is beneath a directory if its place begins with the directory's. -/
theorem owns_place_iff (hr : ∀ q ∈ r.places, q.IsResolved) {place : List String}
    (hcontent : (d.get? place).bind Disk.content? = some data) :
    r.Owns d (.place place) ↔ ∃ q ∈ r.places, d.node? q = some .directory ∧ q.parts <+: place := by
  have hroot {q : Path} (hq : q ∈ r.places) (hdirectory : d.node? q = some .directory) :
      d.locate q = .ok q.parts ∧ d.get? q.parts = some .directory := by
    obtain ⟨-, root, hroot, hget⟩ := Disk.node?_eq_some hdirectory
    obtain rfl := Disk.eq_of_locate (hr q hq).absolute (hr q hq).down hroot
    exact ⟨hroot, hget⟩
  refine exists_congr fun q => and_congr_right fun hq => and_congr_right fun hdirectory => ?_
  obtain ⟨hlocate, hget⟩ := hroot hq hdirectory
  constructor
  · rintro ⟨root, hlocated, hbelow⟩
    cases hlocate.symm.trans hlocated
    rw [Disk.isBelow, Bool.and_eq_true, List.isPrefixOf_iff_prefix] at hbelow
    exact hbelow.1
  · intro hstart
    refine ⟨q.parts, hlocate, ?_⟩
    rw [Disk.isBelow, Bool.and_eq_true, List.isPrefixOf_iff_prefix, decide_eq_true_eq]
    refine ⟨hstart, lt_of_le_of_ne hstart.length_le fun hlength => ?_⟩
    -- the directory itself is no regular file
    rw [← hstart.eq_of_length hlength, hget] at hcontent
    cases hcontent

/-- **What a directory supplies is beneath a directory** exactly if the path leads below one, and what an archive
supplies is always an entry of it. -/
theorem Supplies.owns_iff {o : Origin} (hr : ∀ q ∈ r.places, q.IsResolved) (h : r.Supplies d path p o data) :
    r.Owns d o ↔ (d.node? p = some .directory →
      ∃ q ∈ r.places, d.node? q = some .directory ∧ q.parts <+: p.landing path) := by
  have hlanding : p.landing (String.ofList (path.toList.dropWhile (· = '/'))) = p.landing path := by
    rw [Path.landing, Path.parts_ofString_dropWhile]
    rfl
  have hmem := h.mem
  cases h.kept with
  | file hdirectory hnull hplace hcontent =>
    rw [owns_place_iff hr hcontent, Path.locate_append_eq_ok (hr p hmem) (Path.head?_dropWhile path) hplace, hlanding]
    exact ⟨fun howns _ => howns, fun howns => howns hdirectory⟩
  | entry harchive hlast =>
    refine iff_of_true ⟨hmem, _, harchive, ?_⟩ fun hdirectory => ?_
    · by_contra hnot
      have hnone := lookupEntry_eq_none fun e he (hname : e.1 = unrooted path) =>
        hnot (List.mem_map.2 ⟨e, List.mem_reverse.1 he, hname⟩)
      cases hnone.symm.trans hlast
    · cases harchive.symm.trans hdirectory

/-- A path that does not climb stays below the directory that has the file. -/
theorem Supplies.owns {o : Origin} (hr : ∀ q ∈ r.places, q.IsResolved) (h : r.Supplies d path p o data)
    (hpath : Path.climbs 0 (Path.ofString path).parts = false) : r.Owns d o := by
  refine (h.owns_iff hr).2 fun hdirectory => ⟨p, h.mem, hdirectory, ?_⟩
  have hbelow : p.parts <+: (Path.ofString path).parts.foldl Path.step (p.parts ++ []) := Path.prefix_foldl_step hpath
  rwa [List.append_nil] at hbelow

end ResourcePath

/-- The places of a resource path are absolute and without steps up. -/
theorem isResolved_of_mem_settle {d : Disk} (hhere : ".." ∉ d.here) {given : List Path} {p : Path}
    (h : p ∈ (settle d given).present) : p.IsResolved := by
  induction given with
  | nil => cases h
  | cons first rest ih =>
    rw [settle] at h
    split at h
    · cases h
    · dsimp only at h
      split at h
      · cases h
      · rename_i parts hparts
        rcases List.mem_cons.1 h with rfl | hrest
        · refine ⟨rfl, ?_⟩
          rw [← Disk.foldl_step_of_walk (Disk.locate_eq_ok hparts)]
          refine Path.up_notMem_foldl_step ?_
          split
          · exact List.not_mem_nil
          · exact hhere
        · exact ih hrest
      · exact ih h

/-! ## Sessions -/

namespace Session

variable {s : Session} {path : String} {data : Bytes}

/-- The ways in which content is taken from the resource path: a file is found there, or something else that is asked
for is not in memory. -/
inductive Takes (s : Session) : String → Bytes → Prop
  | find {path : String} {file : File} {data : Bytes} (found : s.resources.find s.disk path = .ok (some file))
      (content : file.bytes = .ok data) : Takes s path data
  | resource {path : String} {data : Bytes} {t : Session}
      (missing : (UnitName.ofArtifactPath? path).bind s.registry.find? = none)
      (read : Overlay.resource path s = .ok data t) : Takes s path data
  | resolve {location : Location} {package relativeName : String} {file : File} {data : Bytes} {t : Session}
      (missing : lookupEntry (UnitName.overlayUri location.label package relativeName) s.overlay = none)
      (read : Overlay.resolve location package relativeName s = .ok file t)
      (content : file.bytes = .ok data) : Takes s (Overlay.relativePath package relativeName) data

/-- All of these ways lead to a file that is found. -/
theorem Takes.find_eq (h : s.Takes path data) :
    ∃ file, s.resources.find s.disk path = .ok (some file) ∧ file.bytes = .ok data := by
  have hmap {path : String} {found : Option File}
      (h : (s.resources.find s.disk path).mapError Failure.raised = .ok found) :
      s.resources.find s.disk path = .ok found := by
    cases hfind : s.resources.find s.disk path with
    | error why => simp [hfind, Except.mapError] at h
    | ok file => simpa [hfind, Except.mapError] using h
  cases h with
  | find found content => exact ⟨_, found, content⟩
  | resource missing read =>
    rw [Overlay.resource, Action.bind_ok (Action.get_apply s), missing] at read
    change Overlay.resourceBytes path s = _ at read
    rw [Overlay.resourceBytes, Action.bind_ok (Action.get_apply s)] at read
    obtain ⟨found, t, hfound, hread⟩ := Action.bind_eq_ok.1 read
    obtain ⟨hfound, rfl⟩ := Action.ofExcept_eq_ok.1 hfound
    cases found with
    | none => cases hread
    | some file => exact ⟨file, hmap hfound, (Action.ofExcept_eq_ok.1 hread).1⟩
  | resolve missing read content =>
    rw [Overlay.resolve, Action.bind_ok (Action.get_apply s), missing] at read
    obtain ⟨found, t, hfound, hread⟩ := Action.bind_eq_ok.1 read
    obtain ⟨hfound, rfl⟩ := Action.ofExcept_eq_ok.1 hfound
    cases found with
    | none => cases hread
    | some found =>
      cases hread
      exact ⟨_, hmap hfound, content⟩

/-- Content that is taken has an origin. -/
theorem Takes.exists_supplies (h : s.Takes path data) :
    ∃ p o, s.resources.Supplies s.disk path p o data := by
  obtain ⟨file, hfound, hbytes⟩ := h.find_eq
  obtain ⟨p, o, bytes, hsupplies, rfl⟩ := ResourcePath.find_eq_some.1 hfound
  cases hbytes
  exact ⟨p, o, hsupplies⟩

/-- **Whatever is taken from the resource path** has an origin, and this is beneath one of the directories or in one
of the archives of the path if the path that was asked for does not climb. If it does, then this is so exactly if it
leads below one of the directories. -/
theorem Takes.contained_iff {d : Disk} {given : List Path} (hhere : ".." ∉ d.here)
    (hplaces : s.resources.places = (settle d given).present) (h : s.Takes path data) :
    (∃ p o, s.resources.Supplies s.disk path p o data) ∧
    ∀ p o, s.resources.Supplies s.disk path p o data →
      (Path.climbs 0 (Path.ofString path).parts = false → s.resources.Owns s.disk o) ∧
      (s.resources.Owns s.disk o ↔ (s.disk.node? p = some .directory →
        ∃ q ∈ s.resources.places, s.disk.node? q = some .directory ∧ q.parts <+: p.landing path)) := by
  have hr : ∀ q ∈ s.resources.places, q.IsResolved := fun q hq => isResolved_of_mem_settle hhere (hplaces ▸ hq)
  exact ⟨h.exists_supplies, fun p o hsupplies => ⟨hsupplies.owns hr, hsupplies.owns_iff hr⟩⟩

/-! ### A file beside a directory -/

/-- A directory of the resource path with a file in it, and another file beside it. -/
def besideDirectory : Session where
  disk := { nodes := [(["in"], .directory), (["in", "p"], .directory), (["in", "a"], .file [1]), (["out"], .file [2])] }
  resources := { places := [⟨1, ["in"]⟩] }

theorem besideDirectory_places :
    besideDirectory.resources.places = (settle besideDirectory.disk [⟨1, ["in"]⟩]).present := by decide +kernel

/-- A path through another directory and back does not lead outside. -/
theorem besideDirectory_contained :
    (".." ∉ besideDirectory.disk.here ∧
      besideDirectory.resources.places = (settle besideDirectory.disk [⟨1, ["in"]⟩]).present ∧
      besideDirectory.Takes "p/../a" [1]) ∧
    ∃ p o, besideDirectory.resources.Supplies besideDirectory.disk "p/../a" p o [1] ∧
      besideDirectory.resources.Owns besideDirectory.disk o := by
  have hfound : besideDirectory.resources.find besideDirectory.disk "p/../a" =
      .ok (some (ResourcePath.fileIn besideDirectory.disk ⟨1, ["in"]⟩ "p/../a" [1])) := by decide +kernel
  have htakes : besideDirectory.Takes "p/../a" [1] := .find hfound rfl
  have hhere : ".." ∉ besideDirectory.disk.here := by decide
  obtain ⟨⟨p, o, hsupplies⟩, hall⟩ := htakes.contained_iff hhere besideDirectory_places
  exact ⟨⟨hhere, besideDirectory_places, htakes⟩, p, o, hsupplies, (hall p o hsupplies).1 (by decide +kernel)⟩

/-- The file beside the directory is found, too. -/
theorem besideDirectory_escapes :
    besideDirectory.resources.places = (settle besideDirectory.disk [⟨1, ["in"]⟩]).present ∧
    besideDirectory.Takes "../out" [2] ∧
    ∃ p o, besideDirectory.resources.Supplies besideDirectory.disk "../out" p o [2] ∧
      ¬ besideDirectory.resources.Owns besideDirectory.disk o := by
  have hsupplies : besideDirectory.resources.Supplies besideDirectory.disk "../out" ⟨1, ["in"]⟩ (.place ["out"]) [2] :=
    ⟨⟨[], [], rfl, nofun⟩, .file (by decide +kernel) (by decide +kernel) (by decide +kernel) (by decide +kernel)⟩
  have hfound : besideDirectory.resources.find besideDirectory.disk "../out" =
      .ok (some (ResourcePath.fileIn besideDirectory.disk ⟨1, ["in"]⟩ "../out" [2])) := by decide +kernel
  have hcontent : (besideDirectory.disk.get? ["out"]).bind Disk.content? = some [2] := by decide +kernel
  refine ⟨besideDirectory_places, .find hfound rfl, _, _, hsupplies, ?_⟩
  rw [ResourcePath.owns_place_iff (by decide) hcontent]
  decide +kernel

end Session

end UnitFoundry
