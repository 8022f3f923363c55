import UnitFoundry.Proofs.ResourcePath.Places
import Mathlib.Data.Multiset.Basic

/-!
# Directories and archives as places of resources

The same files can be offered as a directory or packed into an archive. What is found under a path, and what is
listed below a package, is the same in both cases, except for the addresses of the files, and for paths that are too
long: the file system refuses to look for them, and the refusal is passed on, while an archive merely has no entry
of this name.

* `find_directory`, `find_archive`, `list_directory`, `list_archive` — what is found and listed;
* `agree_iff` — **the two places agree exactly on the paths that are not too long**.
-/

namespace UnitFoundry

open Text

/-! ## What is found -/

variable {d e : Disk} {p q : Path} {s : FileSet} {parts package : List String} {recurse : Bool}
  {entries : List (String × Bytes)} {kinds : List FileKind}

/-- The file at a path, if there is one. -/
def FileSet.found? (s : FileSet) (parts : List String) : Option (FileKind × String × Content) :=
  (s.content? parts).map fun data => FileSet.described (parts, data)

/-- The files of a listing without their addresses, in no order. -/
def Listing.described (l : Listing) : Except Failure (Multiset (FileKind × String × Content)) :=
  l.all.map fun files => ↑(files.map File.description)

namespace ResourcePath

/-- The file at a path without its address. -/
def describe (found : Except Raised (Option File)) : Except Raised (Option (FileKind × String × Content)) :=
  found.map (Option.map File.description)

/-- A path with slashes at its start. -/
def rooted (leading : Nat) (parts : List String) : String :=
  String.ofList (List.replicate leading '/' ++ (Path.slashed parts).toList)

/-- Slashes at the start of a path do not count. -/
theorem find_rooted_places (hparts : Path.IsRelative parts) (r : ResourcePath) (d : Disk) (leading : Nat) :
    find r d (rooted leading parts) = findIn d (Path.slashed parts) r.places := by
  rw [find, rooted, String.toList_ofList, Path.dropWhile_append_slashed hparts.2, String.ofList_toList]

/-- What is found if there is one place. -/
theorem find_rooted (hparts : Path.IsRelative parts) (d : Disk) (p : Path) (leading : Nat) :
    find ⟨[p]⟩ d (rooted leading parts) = (readIn d p (Path.slashed parts)).map
      (Option.map (fileIn d p (Path.slashed parts))) := by
  rw [find_rooted_places hparts, findIn]
  cases readIn d p (Path.slashed parts) with
  | error why => rfl
  | ok data => cases data <;> rfl

theorem describe_find (hparts : Path.IsRelative parts) (leading : Nat)
    (h : readIn d p (Path.slashed parts) = .ok (s.content? parts)) :
    describe (find ⟨[p]⟩ d (rooted leading parts)) = .ok (s.found? parts) := by
  rw [find_rooted hparts, h, FileSet.found?]
  cases s.content? parts <;> rfl

theorem described_list {files : List File} {listed : List (FileKind × String × Content)} {name : String}
    (h : listIn d p name kinds recurse = .ok files) (hperm : (files.map File.description).Perm listed) :
    (list ⟨[p]⟩ d name kinds recurse).described = .ok ↑listed := by
  have hall : (list ⟨[p]⟩ d name kinds recurse).all = .ok files := by
    show (listAll d name kinds recurse [p]).all = _
    rw [listAll, h]
    show Except.ok (files ++ []) = _
    rw [List.append_nil]
  rw [Listing.described, hall]
  exact congrArg Except.ok (Multiset.coe_eq_coe.2 hperm)

theorem described_list_of_error {why : Raised} {name : String} (h : listIn d p name kinds recurse = .error why) :
    (list ⟨[p]⟩ d name kinds recurse).described = .error (.raised why) := by
  have hall : (list ⟨[p]⟩ d name kinds recurse).all = .error (.raised why) := by
    show (listAll d name kinds recurse [p]).all = _
    rw [listAll, h]
    rfl
  rw [Listing.described, hall]
  rfl

/-- What is found in a directory, and when. -/
theorem find_directory (h : d.Holds p s) (hparts : Path.IsRelative parts) (leading : Nat) :
    describe (find ⟨[p]⟩ d (rooted leading parts)) = .ok (s.found? parts) ↔ ¬ d.TooLong (p.extended parts) := by
  by_cases hlong : d.TooLong (p.extended parts)
  · rw [find_rooted hparts, readIn_directory_of_tooLong h.stocks hparts hlong]
    exact iff_of_false nofun (not_not_intro hlong)
  · exact iff_of_true (describe_find hparts leading (readIn_directory h.stocks hparts hlong)) hlong

/-- What is found in an archive. -/
theorem find_archive (h : e.Packs q s entries) (hparts : Path.IsRelative parts) (leading : Nat) :
    describe (find ⟨[q]⟩ e (rooted leading parts)) = .ok (s.found? parts) :=
  describe_find hparts leading (readIn_archive h hparts)

/-! ## What is listed -/

/-- What is listed in a directory, and when. -/
theorem list_directory (h : d.Holds p s) (hpackage : ∀ c ∈ package, Path.IsPart c) (kinds : List FileKind)
    (recurse : Bool) : (list ⟨[p]⟩ d (Path.dotted package) kinds recurse).described =
      .ok ↑(s.listed package kinds recurse) ↔ ¬ d.TooLong (p.extended package) := by
  have hcomponents : ∀ c ∈ package, Path.IsComponent c := fun c hc => (hpackage c hc).isComponent
  by_cases hlong : d.TooLong (p.extended package)
  · have herror : listIn d p (Path.dotted package) kinds recurse =
        .error (Refusal.nameTooLong.raised (p.extended package)) := by
      rw [listIn, Path.replaceIn_dotted hpackage, pathsIn_directory_of_tooLong h.stocks hcomponents recurse hlong]
      rfl
    rw [described_list_of_error herror]
    exact iff_of_false (by simp) (not_not_intro hlong)
  · obtain ⟨paths, hpaths, hperm⟩ := pathsIn_directory h.stocks hcomponents recurse hlong
    have hread : ∀ f ∈ s.files, readIn d p (Path.slashed f.1) = .ok (some f.2) := fun f hf => by
      rw [readIn_directory h.stocks (s.named f hf) (h.stocks.not_tooLong hf), FileSet.content?_of_mem hf]
    obtain ⟨files, hfiles, hlisted⟩ :=
      listIn_of_pathsIn kinds (Path.replaceIn_dotted hpackage) hpaths hperm hread
    exact iff_of_true (described_list hfiles hlisted) hlong

/-- What is listed in an archive. -/
theorem list_archive (h : e.Packs q s entries) (hpackage : ∀ c ∈ package, Path.IsPart c) (kinds : List FileKind)
    (recurse : Bool) : (list ⟨[q]⟩ e (Path.dotted package) kinds recurse).described =
      .ok ↑(s.listed package kinds recurse) := by
  obtain ⟨paths, hpaths, hperm⟩ := pathsIn_archive h (fun c hc => (hpackage c hc).isComponent) recurse
  have hread : ∀ f ∈ s.files, readIn e q (Path.slashed f.1) = .ok (some f.2) := fun f hf => by
    rw [readIn_archive h (s.named f hf), FileSet.content?_of_mem hf]
  obtain ⟨files, hfiles, hlisted⟩ :=
    listIn_of_pathsIn kinds (Path.replaceIn_dotted hpackage) hpaths hperm hread
  exact described_list hfiles hlisted

/-! ## The same answers -/

/-- **A directory and an archive with the same files agree** on what is found under a path and on what is listed
below a package exactly if the path of the file, or of the package, is not too long for the directory. The archive
always answers with the files of the set. -/
theorem agree_iff (hd : d.Holds p s) (he : e.Packs q s entries) :
    (∀ (leading : Nat) (parts : List String), Path.IsRelative parts →
      describe (find ⟨[q]⟩ e (rooted leading parts)) = .ok (s.found? parts) ∧
      (describe (find ⟨[p]⟩ d (rooted leading parts)) = describe (find ⟨[q]⟩ e (rooted leading parts)) ↔
        ¬ d.TooLong (p.extended parts))) ∧
    ∀ (package : List String) (kinds : List FileKind) (recurse : Bool), (∀ c ∈ package, Path.IsPart c) →
      (list ⟨[q]⟩ e (Path.dotted package) kinds recurse).described = .ok ↑(s.listed package kinds recurse) ∧
      ((list ⟨[p]⟩ d (Path.dotted package) kinds recurse).described =
          (list ⟨[q]⟩ e (Path.dotted package) kinds recurse).described ↔
        ¬ d.TooLong (p.extended package)) := by
  constructor
  · intro leading parts hparts
    have harchive := find_archive he hparts leading
    exact ⟨harchive, harchive ▸ find_directory hd hparts leading⟩
  · intro package kinds recurse hpackage
    have harchive := list_archive he hpackage kinds recurse
    exact ⟨harchive, harchive ▸ list_directory hd hpackage kinds recurse⟩

/-! ### Files next to one another -/

/-- Three units, one of them in a package whose name is the start of another one's. -/
def units : FileSet where
  files := [(["p", "A.py"], [1]), (["p", "q", "B.pyc"], [2]), (["pq", "C.py"], [3])]
  unique := by decide
  named := by decide

/-- The entries of the three units, and those of two directories. -/
def unitEntries : List (String × Bytes) :=
  [("p/", []), ("pq/C.py", [3]), ("p/q/", []), ("p/A.py", [1]), ("p/q/B.pyc", [2])]

/-- The three units in a directory, and in an archive. -/
def unitDisk : Disk where
  nodes := [(["dir"], .directory), (["dir", "p"], .directory), (["dir", "p", "A.py"], .file [1]),
    (["dir", "p", "q"], .directory), (["dir", "p", "q", "B.pyc"], .file [2]), (["dir", "pq"], .directory),
    (["dir", "pq", "C.py"], .file [3]), (["zip"], .archive unitEntries)]

theorem units_in_directory : unitDisk.Holds ⟨1, ["dir"]⟩ units where
  unique := by decide
  directory := by decide +kernel
  files := by decide +kernel
  only {place rest node} hplace hrest hmem := by
    obtain rfl : ["dir"] = place := by
      have h : unitDisk.locate ⟨1, ["dir"]⟩ = .ok ["dir"] := by decide +kernel
      exact Except.ok.inj (h.symm.trans hplace)
    simp [unitDisk, units] at hmem ⊢
    grind

theorem units_in_archive : unitDisk.Packs ⟨1, ["zip"]⟩ units unitEntries where
  archive := by decide +kernel
  files := by decide +kernel

/-- The three units are found and listed alike. -/
theorem units_agree :
    (unitDisk.Holds ⟨1, ["dir"]⟩ units ∧ unitDisk.Packs ⟨1, ["zip"]⟩ units unitEntries) ∧
    describe (find ⟨[⟨1, ["dir"]⟩]⟩ unitDisk (rooted 2 ["p", "q", "B.pyc"])) =
      describe (find ⟨[⟨1, ["zip"]⟩]⟩ unitDisk (rooted 2 ["p", "q", "B.pyc"])) ∧
    (list ⟨[⟨1, ["dir"]⟩]⟩ unitDisk (Path.dotted ["p"]) FileKind.all true).described =
      (list ⟨[⟨1, ["zip"]⟩]⟩ unitDisk (Path.dotted ["p"]) FileKind.all true).described :=
  have h := agree_iff units_in_directory units_in_archive
  ⟨⟨units_in_directory, units_in_archive⟩, (h.1 2 ["p", "q", "B.pyc"] (by decide)).2.2 (by decide +kernel),
    (h.2 ["p"] FileKind.all true (by decide)).2.2 (by decide +kernel)⟩

theorem isPart_replicate (n : Nat) : Path.IsPart (String.ofList (List.replicate (n + 1) 'a')) :=
  Path.isPart_replicate n (by decide) (by decide) (by decide)

/-- A name with one byte more than the file system allows. -/
def longName : String := String.ofList (List.replicate 256 'a')

theorem longName_tooLong : unitDisk.TooLong ⟨1, ["dir", longName]⟩ := by decide +kernel

/-- The directory refuses to look for such a name, and the archive has nothing under it. -/
theorem longName_disagrees :
    (unitDisk.Holds ⟨1, ["dir"]⟩ units ∧ unitDisk.Packs ⟨1, ["zip"]⟩ units unitEntries ∧
      Path.IsRelative [longName]) ∧
    find ⟨[⟨1, ["dir"]⟩]⟩ unitDisk (rooted 0 [longName]) =
      .error (Refusal.nameTooLong.raised ⟨1, ["dir", longName]⟩) ∧
    describe (find ⟨[⟨1, ["zip"]⟩]⟩ unitDisk (rooted 0 [longName])) = .ok none := by
  have hparts : Path.IsRelative [longName] :=
    ⟨List.cons_ne_nil _ _, List.forall_mem_singleton.2 (isPart_replicate 255).isComponent⟩
  refine ⟨⟨units_in_directory, units_in_archive, hparts⟩, ?_, ?_⟩
  · rw [find_rooted hparts, readIn_directory_of_tooLong units_in_directory.stocks hparts longName_tooLong]
    rfl
  · have hnone : ∀ f ∈ units.files, f.1 ≠ [longName] := fun f hf heq =>
      absurd (congrArg List.length heq) ((by decide : ∀ f ∈ units.files, f.1.length ≠ 1) f hf)
    rw [find_archive units_in_archive hparts, FileSet.found?, FileSet.content?_eq_none hnone]
    rfl

end ResourcePath

end UnitFoundry
