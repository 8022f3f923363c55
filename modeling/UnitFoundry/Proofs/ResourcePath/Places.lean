import UnitFoundry.ResourcePath
import UnitFoundry.Proofs.Disk.Looking
import UnitFoundry.Proofs.Entries
import UnitFoundry.Proofs.UnitPath
import Mathlib.Data.List.Nodup
import Mathlib.Data.List.Perm.Basic

/-!
# Places that hold the same files

A finite set of files can be kept below a directory or in an archive. The two are searched in different ways: a
directory is walked, while the entries of an archive have no more than names, which are compared with the package
as texts. Both ways give the files of the set: under a path the file there, and for a package the files below it.

* `FileSet`, `FileSet.content?`, `FileSet.below` — files, what one of them holds, and those below a package;
* `Disk.Holds`, `Disk.Packs` — the set of files is what a directory, or an archive, has;
* `Disk.Stocks` — the same for directories which may have archives among their files;
* `readIn_archive`, `pathsIn_archive` — what is found in an archive;
* `readIn_directory`, `pathsIn_directory` — **what is found in a directory, as long as no path is too long**;
* `listIn_eq_ok` — the files that are listed, from their paths.
-/

namespace UnitFoundry

open Text

/-! ## Sets of files -/

/-- A finite set of files: what each holds, under the components of its path. -/
structure FileSet where
  files : List (List String × Bytes)
  unique : (files.map (·.1)).Nodup
  named : ∀ f ∈ files, Path.IsRelative f.1

namespace FileSet

/-- What the file at a path holds. -/
def content? (s : FileSet) (parts : List String) : Option Bytes :=
  (s.files.find? (·.1 = parts)).map (·.2)

/-- Whether a path leads to a file below a package, or directly in it. -/
def isBelow (package : List String) (recurse : Bool) (parts : List String) : Bool :=
  Disk.isBelow package parts && (recurse || parts.length = package.length + 1)

/-- The files below a package, or directly in it. -/
def below (s : FileSet) (package : List String) (recurse : Bool) : List (List String × Bytes) :=
  s.files.filter fun f => isBelow package recurse f.1

variable {s : FileSet} {parts package : List String} {f : List String × Bytes} {recurse : Bool}

theorem content?_of_mem (h : f ∈ s.files) : s.content? f.1 = some f.2 := by
  obtain ⟨other, hother⟩ := Option.isSome_iff_exists.1
    (List.find?_isSome.2 ⟨f, h, decide_eq_true rfl⟩ : (s.files.find? (·.1 = f.1)).isSome)
  have hsame : other.1 = f.1 := by simpa using List.find?_some hother
  obtain rfl : other = f := List.inj_on_of_nodup_map s.unique (List.mem_of_find?_eq_some hother) h hsame
  rw [content?, hother]
  rfl

theorem content?_eq_none (h : ∀ f ∈ s.files, f.1 ≠ parts) : s.content? parts = none := by
  rw [content?, List.find?_eq_none.2 fun f hf => by simpa using h f hf]
  rfl

theorem isBelow_iff : isBelow package recurse parts = true ↔
    ∃ rest, rest ≠ [] ∧ parts = package ++ rest ∧ (recurse = true ∨ rest.length = 1) := by
  simp only [isBelow, Disk.isBelow, Bool.and_eq_true, List.isPrefixOf_iff_prefix, decide_eq_true_eq,
    Bool.or_eq_true]
  constructor
  · rintro ⟨⟨⟨rest, rfl⟩, hlonger⟩, hdepth⟩
    rw [List.length_append] at hlonger hdepth
    exact ⟨rest, List.ne_nil_of_length_pos (by omega), rfl, hdepth.imp_right fun h => by omega⟩
  · rintro ⟨rest, hrest, rfl, hdepth⟩
    have hpos := List.length_pos_of_ne_nil hrest
    rw [List.length_append]
    exact ⟨⟨List.prefix_append _ _, by omega⟩, hdepth.imp_right fun h => by omega⟩

theorem mem_below : f ∈ s.below package recurse ↔ f ∈ s.files ∧
    ∃ rest, rest ≠ [] ∧ f.1 = package ++ rest ∧ (recurse = true ∨ rest.length = 1) := by
  rw [below, List.mem_filter, isBelow_iff]

end FileSet

variable {d : Disk} {p : Path} {s : FileSet} {parts package : List String} {recurse : Bool}
  {entries : List (String × Bytes)}

/-! ## Archives -/

/-- An archive with one entry for each file of a set, and else with entries of directories only. -/
structure Disk.Packs (d : Disk) (p : Path) (s : FileSet) (entries : List (String × Bytes)) : Prop where
  archive : d.node? p = some (.archive entries)
  files : (entries.filter fun e => !endsWith e.1 "/").Perm (s.files.map fun f => (Path.slashed f.1, f.2))

namespace Disk.Packs

/-- The entries under a name that could be a file's. -/
theorem exists_file (h : d.Packs p s entries) (hparts : Path.IsRelative parts) {e : String × Bytes}
    (he : e ∈ entries) (hname : e.1 = Path.slashed parts) : ∃ f ∈ s.files, f.1 = parts ∧ f.2 = e.2 := by
  have hfile : e ∈ entries.filter fun e => !endsWith e.1 "/" := by
    rw [List.mem_filter, hname, Path.endsWith_slashed hparts]
    exact ⟨he, rfl⟩
  obtain ⟨f, hf, rfl⟩ := List.mem_map.1 (h.files.mem_iff.1 hfile)
  exact ⟨f, hf, (Path.slashed_inj (s.named f hf).2 hparts.2).1 hname, rfl⟩

/-- The names of the entries that are files. -/
theorem names (h : d.Packs p s entries) :
    ((entries.map (·.1)).filter fun name => !endsWith name "/").Perm (s.files.map fun f => Path.slashed f.1) := by
  have hperm := h.files.map (·.1)
  rw [List.map_map] at hperm
  rwa [List.filter_map]

end Disk.Packs

namespace ResourcePath

/-- What an archive has under a path that could be a file's. -/
theorem readIn_archive (h : d.Packs p s entries) (hparts : Path.IsRelative parts) :
    readIn d p (Path.slashed parts) = .ok (s.content? parts) := by
  rw [readIn, h.archive]
  refine congrArg Except.ok ?_
  by_cases hmem : ∃ f ∈ s.files, f.1 = parts
  · obtain ⟨f, hf, rfl⟩ := hmem
    have hentry : (Path.slashed f.1, f.2) ∈ entries :=
      (List.mem_filter.1 (h.files.mem_iff.2 (List.mem_map.2 ⟨f, hf, rfl⟩))).1
    rw [FileSet.content?_of_mem hf]
    refine lookupEntry_of_unique (List.mem_reverse.2 hentry) fun e he hname => ?_
    obtain ⟨g, hg, hsame, hdata⟩ := h.exists_file (s.named f hf) (List.mem_reverse.1 he) hname
    obtain rfl := List.inj_on_of_nodup_map s.unique hg hf hsame
    exact hdata.symm
  · rw [FileSet.content?_eq_none fun f hf heq => hmem ⟨f, hf, heq⟩]
    refine lookupEntry_eq_none fun e he hname => ?_
    obtain ⟨f, hf, heq, -⟩ := h.exists_file hparts (List.mem_reverse.1 he) hname
    exact hmem ⟨f, hf, heq⟩

/-- The name of a file begins with a package exactly if its path does. -/
theorem isListed_slashed (hpackage : ∀ c ∈ package, Path.IsComponent c) (hparts : Path.IsRelative parts)
    (recurse : Bool) :
    isListed (Path.slashed package) recurse (Path.slashed parts) = FileSet.isBelow package recurse parts := by
  have hdepth {rest : List String} (hrest : Path.IsRelative rest) :
      (recurse || !(Path.slashed rest).toList.contains '/') = true ↔ recurse = true ∨ rest.length = 1 := by
    have hslash := Path.slash_mem_slashed hrest
    by_cases hlength : rest.length = 1 <;> simp_all
  rw [Bool.eq_iff_iff, FileSet.isBelow_iff, isListed, if_neg (by simp [Path.endsWith_slashed hparts])]
  by_cases hempty : package = []
  · subst hempty
    simp only [Path.slashed_nil, show "".isEmpty = true from rfl, if_true, hdepth hparts, List.nil_append]
    exact ⟨fun h => ⟨parts, hparts.1, rfl, h⟩, fun ⟨rest, _, heq, h⟩ => heq ▸ h⟩
  · have hnonempty : (Path.slashed package).isEmpty = false := by
      rw [Bool.eq_false_iff, ne_eq, String.isEmpty_iff]
      exact fun hslashed => hempty ((Path.slashed_inj hpackage (by simp)).1 (hslashed.trans Path.slashed_nil.symm))
    have hstart : (Path.slashed package ++ "/").toList = (Path.slashed package).toList ++ ['/'] :=
      String.toList_append
    simp only [hnonempty, Bool.false_eq_true, if_false, hstart]
    have hiff {rest : List Char} : dropStart? ((Path.slashed package).toList ++ ['/']) (Path.slashed parts).toList =
        some rest ↔ ∃ more, more ≠ [] ∧ parts = package ++ more ∧ rest = (Path.slashed more).toList := by
      rw [dropStart?_eq_some, List.append_assoc]
      exact Path.slashed_eq_append_iff ⟨hempty, hpackage⟩ hparts
    constructor
    · intro h
      split at h
      · rename_i rest hrest
        obtain ⟨more, hmore, heq, rfl⟩ := hiff.1 hrest
        refine ⟨more, hmore, heq, (hdepth ⟨hmore, fun c hc => hparts.2 c ?_⟩).1 h⟩
        exact heq ▸ List.mem_append_right _ hc
      · cases h
    · rintro ⟨more, hmore, heq, h⟩
      rw [hiff.2 ⟨more, hmore, heq, rfl⟩]
      refine (hdepth ⟨hmore, fun c hc => hparts.2 c ?_⟩).2 h
      exact heq ▸ List.mem_append_right _ hc

/-- Entries of directories are not listed. -/
theorem filter_isListed (names : List String) (directory : String) (recurse : Bool) :
    names.filter (isListed directory recurse) =
      (names.filter fun name => !endsWith name "/").filter (isListed directory recurse) := by
  rw [List.filter_filter]
  refine List.filter_congr fun name _ => ?_
  by_cases hends : endsWith name "/" = true <;> simp [isListed, hends]

/-- The paths of the files that an archive has below a package. -/
theorem pathsIn_archive (h : d.Packs p s entries) (hpackage : ∀ c ∈ package, Path.IsComponent c) (recurse : Bool) :
    ∃ paths, pathsIn d p (Path.slashed package) recurse = .ok paths ∧
      paths.Perm ((s.below package recurse).map fun f => Path.slashed f.1) := by
  refine ⟨(entries.map (·.1)).filter (isListed (Path.slashed package) recurse), ?_, ?_⟩
  · rw [pathsIn, h.archive]
    rfl
  rw [filter_isListed]
  refine (h.names.filter _).trans (List.Perm.of_eq ?_)
  rw [List.filter_map]
  refine congrArg (List.map _) (List.filter_congr fun f hf => ?_)
  exact isListed_slashed hpackage (s.named f hf) recurse

end ResourcePath

/-! ## Directories -/

/-- A directory with the files of a set below it, and else with directories only. -/
structure Disk.Holds (d : Disk) (p : Path) (s : FileSet) : Prop where
  unique : (d.nodes.map (·.1)).Nodup
  directory : d.node? p = some .directory
  files : ∀ f ∈ s.files, d.node? (p.extended f.1) = some (.file f.2)
  only : ∀ {place rest : List String} {node : Node}, d.locate p = .ok place → rest ≠ [] →
    (place ++ rest, node) ∈ d.nodes → node = .directory ∨ ∃ f ∈ s.files, f.1 = rest

/-- A directory with the files of a set below it, which may be archives, and else with directories only. -/
structure Disk.Stocks (d : Disk) (p : Path) (s : FileSet) : Prop where
  unique : (d.nodes.map (·.1)).Nodup
  directory : d.node? p = some .directory
  files : ∀ f ∈ s.files, (d.node? (p.extended f.1)).bind content? = some f.2
  only : ∀ {place rest : List String} {node : Node}, d.locate p = .ok place → rest ≠ [] →
    (place ++ rest, node) ∈ d.nodes → node = .directory ∨ ∃ f ∈ s.files, f.1 = rest

theorem Disk.Holds.stocks (h : d.Holds p s) : d.Stocks p s where
  unique := h.unique
  directory := h.directory
  files f hf := by
    rw [h.files f hf]
    rfl
  only := h.only

theorem Path.IsComponent.down (h : ∀ c ∈ parts, Path.IsComponent c) : ".." ∉ parts :=
  fun hmem => (h _ hmem).ne_above rfl

namespace Disk.Stocks

/-- The place of the directory. -/
theorem exists_place (h : d.Stocks p s) : hasNull p = false ∧ ∃ place, d.locate p = .ok place :=
  have ⟨hnull, place, hplace, _⟩ := node?_eq_some h.directory
  ⟨hnull, place, hplace⟩

/-- Every file is where its path says. -/
theorem file_at (h : d.Stocks p s) {place : List String} (hplace : d.locate p = .ok place)
    {f : List String × Bytes} (hf : f ∈ s.files) : d.locate (p.extended f.1) = .ok (place ++ f.1) ∧
      ∃ node, content? node = some f.2 ∧ (place ++ f.1, node) ∈ d.nodes := by
  obtain ⟨node, hnode, hcontent⟩ := Option.bind_eq_some_iff.1 (h.files f hf)
  obtain ⟨-, target, htarget, hget⟩ := node?_eq_some hnode
  obtain ⟨-, rfl⟩ := locate_extended_eq_ok hplace (Path.IsComponent.down (s.named f hf).2) htarget
  exact ⟨htarget, node, hcontent, mem_nodes_of_get? (List.append_ne_nil_of_right_ne_nil _ (s.named f hf).1) hget⟩

theorem not_tooLong (h : d.Stocks p s) {f : List String × Bytes} (hf : f ∈ s.files) :
    ¬ d.TooLong (p.extended f.1) := by
  obtain ⟨-, place, hplace⟩ := h.exists_place
  rw [TooLong, (h.file_at hplace hf).1]
  exact nofun

/-- A path leads to a file of the set, to a directory, or nowhere. -/
theorem node?_content (h : d.Stocks p s) (hparts : Path.IsRelative parts) :
    (d.node? (p.extended parts)).bind content? = s.content? parts := by
  obtain ⟨-, place, hplace⟩ := h.exists_place
  by_cases hmem : ∃ f ∈ s.files, f.1 = parts
  · obtain ⟨f, hf, rfl⟩ := hmem
    rw [h.files f hf, FileSet.content?_of_mem hf]
  rw [FileSet.content?_eq_none fun f hf heq => hmem ⟨f, hf, heq⟩]
  cases hnode : d.node? (p.extended parts) with
  | none => rfl
  | some node =>
    obtain ⟨-, target, htarget, hget⟩ := node?_eq_some hnode
    obtain ⟨-, rfl⟩ := locate_extended_eq_ok hplace (Path.IsComponent.down hparts.2) htarget
    rcases h.only hplace hparts.1 (mem_nodes_of_get? (List.append_ne_nil_of_right_ne_nil _ hparts.1) hget) with
      rfl | hfile
    · rfl
    · exact absurd hfile hmem

/-- A package with files below it is a directory, if its path is not too long. -/
theorem package_of_mem (h : d.Stocks p s) (hlong : ¬ d.TooLong (p.extended package))
    {f : List String × Bytes} (hf : f ∈ s.below package recurse) :
    d.node? (p.extended package) = some .directory := by
  obtain ⟨hnull, place, hplace⟩ := h.exists_place
  obtain ⟨hf, rest, hrest, hparts, -⟩ := FileSet.mem_below.1 hf
  have hdown := Path.IsComponent.down (s.named f hf).2
  rw [hparts, List.mem_append, not_or] at hdown
  have hwalk := (locate_extended_eq_ok hplace (Path.IsComponent.down (s.named f hf).2) (h.file_at hplace hf).1).1
  rw [hparts] at hwalk
  have hdirectory := directory_of_walk hdown.1 hrest hwalk
  have hpackage : d.locate (p.extended package) = .ok (place ++ package) := by
    rw [locate_extended hplace]
    split
    · rename_i hlimit
      exact absurd (by rw [TooLong, locate_extended hplace, if_pos hlimit]) hlong
    · rw [walk_append] at hwalk
      cases hfirst : d.walk place package with
      | error r =>
        rw [hfirst] at hwalk
        cases hwalk
      | ok middle => rw [walk_eq_ok hdown.1 hfirst]
  have hcomponents : ∀ c ∈ package, Path.IsComponent c := fun c hc =>
    (s.named f hf).2 c (hparts ▸ List.mem_append_left _ hc)
  rw [node?, hasNull_extended hnull hcomponents, if_neg Bool.false_ne_true, hpackage]
  exact hdirectory

end Disk.Stocks

namespace ResourcePath

/-- What a directory has under a path, as long as it is not too long. -/
theorem readIn_directory (h : d.Stocks p s) (hparts : Path.IsRelative parts)
    (hlong : ¬ d.TooLong (p.extended parts)) : readIn d p (Path.slashed parts) = .ok (s.content? parts) := by
  rw [readIn, h.directory]
  show d.find (p.append _) = _
  rw [Path.append_eq_extended p hparts.2, Disk.find, Disk.look_of_not_tooLong hlong, ← h.node?_content hparts]
  rfl

/-- A path that is too long cannot be read. -/
theorem readIn_directory_of_tooLong (h : d.Stocks p s) (hparts : Path.IsRelative parts)
    (hlong : d.TooLong (p.extended parts)) :
    readIn d p (Path.slashed parts) = .error (Refusal.nameTooLong.raised (p.extended parts)) := by
  rw [readIn, h.directory]
  show d.find (p.append _) = _
  rw [Path.append_eq_extended p hparts.2, Disk.find,
    Disk.look_of_tooLong (Disk.hasNull_extended h.exists_place.1 hparts.2) hlong]
  rfl

/-- The files below a directory of a place are those of the set that are below the package. -/
theorem filesBelow_perm (h : d.Stocks p s) {place : List String} (hplace : d.locate p = .ok place)
    (hpackage : d.locate (p.extended package) = .ok (place ++ package)) (recurse : Bool) :
    ((d.filesBelow (p.extended package) recurse).map (package ++ ·)).Perm ((s.below package recurse).map (·.1)) := by
  have hinj : Function.Injective (package ++ · : List String → List String) := fun _ _ => List.append_cancel_left
  have hnodup : ((s.below package recurse).map (·.1)).Nodup := s.unique.sublist (List.filter_sublist.map _)
  refine (List.perm_ext_iff_of_nodup ((Disk.nodup_filesBelow h.unique hpackage recurse).map hinj) hnodup).2
    fun parts => ?_
  simp only [List.mem_map, Disk.mem_filesBelow hpackage, FileSet.mem_below, List.append_assoc]
  constructor
  · rintro ⟨rest, ⟨hrest, hdepth, node, hnode, hmem⟩, rfl⟩
    obtain hdirectory | ⟨f, hf, heq⟩ := h.only hplace (List.append_ne_nil_of_right_ne_nil _ hrest) hmem
    · exact absurd hdirectory hnode
    · exact ⟨f, ⟨hf, rest, hrest, heq, hdepth⟩, heq⟩
  · rintro ⟨f, ⟨hf, rest, hrest, heq, hdepth⟩, rfl⟩
    obtain ⟨-, node, hcontent, hmem⟩ := h.file_at hplace hf
    refine ⟨rest, ⟨hrest, hdepth, node, ?_, heq ▸ hmem⟩, heq.symm⟩
    rintro rfl
    cases hcontent

/-- The paths of the files that a directory has below a package, as long as that is not too long. -/
theorem pathsIn_directory (h : d.Stocks p s) (hpackage : ∀ c ∈ package, Path.IsComponent c) (recurse : Bool)
    (hlong : ¬ d.TooLong (p.extended package)) :
    ∃ paths, pathsIn d p (Path.slashed package) recurse = .ok paths ∧
      paths.Perm ((s.below package recurse).map fun f => Path.slashed f.1) := by
  obtain ⟨-, place, hplace⟩ := h.exists_place
  rw [pathsIn, h.directory]
  simp only [Path.append_eq_extended p hpackage, Disk.look_of_not_tooLong hlong]
  by_cases hnode : d.node? (p.extended package) = some .directory
  · obtain ⟨-, target, htarget, -⟩ := Disk.node?_eq_some hnode
    obtain ⟨-, rfl⟩ := Disk.locate_extended_eq_ok hplace (Path.IsComponent.down hpackage) htarget
    have hprefix : p.parts.isPrefixOf (p.extended package).parts = true :=
      List.isPrefixOf_iff_prefix.2 (List.prefix_append _ _)
    have hleading : (p.extended package).parts.drop p.parts.length = package := List.drop_left
    rw [hnode]
    refine ⟨_, if_pos hprefix, ?_⟩
    have hperm := (filesBelow_perm h hplace htarget recurse).map Path.slashed
    rw [List.map_map, List.map_map] at hperm
    rw [hleading]
    exact hperm
  · have hnone : s.below package recurse = [] :=
      List.eq_nil_iff_forall_not_mem.2 fun f hf => hnode (h.package_of_mem hlong hf)
    rw [hnone]
    refine ⟨[], ?_, List.Perm.refl _⟩
    cases hfound : d.node? (p.extended package) with
    | none => rfl
    | some node =>
      cases node with
      | directory => exact absurd hfound hnode
      | file data => rfl
      | archive entries => rfl

/-- A package whose path is too long cannot be listed. -/
theorem pathsIn_directory_of_tooLong (h : d.Stocks p s) (hpackage : ∀ c ∈ package, Path.IsComponent c)
    (recurse : Bool) (hlong : d.TooLong (p.extended package)) :
    pathsIn d p (Path.slashed package) recurse = .error (Refusal.nameTooLong.raised (p.extended package)) := by
  rw [pathsIn, h.directory]
  simp only [Path.append_eq_extended p hpackage,
    Disk.look_of_tooLong (Disk.hasNull_extended h.exists_place.1 hpackage) hlong]
  rfl

end ResourcePath

/-! ## Files -/

/-- All of a file but its address. -/
def File.description (f : File) : FileKind × String × Content := (f.kind, f.name, f.content)

/-- The kind, the name and the content of the file that has certain bytes at a path. -/
def FileSet.described (f : List String × Bytes) : FileKind × String × Content :=
  let path := Path.slashed f.1
  let kind := (FileKind.ofPath? path).getD .artifact
  (kind, replaceIn '/' '.' ((withoutSuffix? kind.extension path).getD path), .frozen f.2)

/-- The files of some kinds below a package, or directly in it. -/
def FileSet.listed (s : FileSet) (package : List String) (kinds : List FileKind) (recurse : Bool) :
    List (FileKind × String × Content) :=
  ((s.below package recurse).filter fun f => (FileKind.ofPath? (Path.slashed f.1)).any kinds.contains).map
    FileSet.described

theorem filterMapM_eq_ok {α β ε : Type} {l : List α} {f : α → Except ε (Option β)} {g : α → Option β}
    (h : ∀ a ∈ l, f a = .ok (g a)) : l.filterMapM f = .ok (l.filterMap g) := by
  have hloop (acc : List β) : List.filterMapM.loop f l acc = .ok (acc.reverse ++ l.filterMap g) := by
    induction l generalizing acc with
    | nil => simp [List.filterMapM.loop, pure, Except.pure]
    | cons a l ih =>
      have htail := ih fun b hb => h b (List.mem_cons_of_mem _ hb)
      rw [List.filterMapM.loop, h a List.mem_cons_self]
      cases hg : g a with
      | none =>
        rw [List.filterMap_cons_none hg]
        exact htail acc
      | some b =>
        rw [List.filterMap_cons_some hg, List.append_cons, ← List.reverse_cons]
        exact htail (b :: acc)
  exact hloop []

namespace ResourcePath

/-- The file at a path in a place that has one there and can read it. -/
def fileAt? (d : Disk) (p : Path) (path : String) : Option File :=
  (readIn d p path).toOption.join.map (fileIn d p path)

theorem fileAt?_of_readIn {path : String} {data : Bytes} (h : readIn d p path = .ok (some data)) :
    fileAt? d p path = some (fileIn d p path data) := by
  rw [fileAt?, h]
  rfl

/-- The file of a place that has certain bytes at a path. -/
def fileOf (d : Disk) (p : Path) (f : List String × Bytes) : File := fileIn d p (Path.slashed f.1) f.2

/-- **The files that a place lists** are those with the paths that it has below the package, if it can read them. -/
theorem listIn_eq_ok {found : List (List String × Bytes)} {paths : List String} {name directory : String}
    (kinds : List FileKind) (hname : replaceIn '.' '/' name = directory)
    (hpaths : pathsIn d p directory recurse = .ok paths) (hperm : paths.Perm (found.map fun f => Path.slashed f.1))
    (hread : ∀ f ∈ found, readIn d p (Path.slashed f.1) = .ok (some f.2)) :
    ∃ files, listIn d p name kinds recurse = .ok files ∧ files.Perm
      ((found.filter fun f => (FileKind.ofPath? (Path.slashed f.1)).any kinds.contains).map (fileOf d p)) := by
  let wanted := paths.filter fun path => (FileKind.ofPath? path).any kinds.contains
  have hwanted : wanted.Perm ((found.filter fun f =>
      (FileKind.ofPath? (Path.slashed f.1)).any kinds.contains).map fun f => Path.slashed f.1) := by
    refine (hperm.filter _).trans (List.Perm.of_eq ?_)
    rw [List.filter_map]
    rfl
  have hfound : (wanted.filterMapM fun path => do
      pure ((← readIn d p path).map (fileIn d p path))) = .ok (wanted.filterMap (fileAt? d p)) := by
    refine filterMapM_eq_ok fun path hpath => ?_
    obtain ⟨f, hf, rfl⟩ := List.mem_map.1 (hwanted.mem_iff.1 hpath)
    have hf := hread f (List.mem_filter.1 hf).1
    rw [hf, fileAt?_of_readIn hf]
    rfl
  have hfiles : (wanted.filterMap (fileAt? d p)).Perm ((found.filter fun f =>
      (FileKind.ofPath? (Path.slashed f.1)).any kinds.contains).map (fileOf d p)) := by
    refine (hwanted.filterMap (fileAt? d p)).trans (List.Perm.of_eq ?_)
    rw [List.filterMap_map, ← List.filterMap_eq_map]
    exact List.filterMap_congr fun f hf => fileAt?_of_readIn (hread f (List.mem_filter.1 hf).1)
  have hlisted : listIn d p name kinds recurse = (wanted.filterMapM fun path => do
      pure ((← readIn d p path).map (fileIn d p path))) >>= fun found =>
        .ok (if d.isDirectory p then found.mergeSort fun a b => !(b.uri < a.uri) else found) := by
    rw [listIn, hname, hpaths]
    rfl
  rw [hfound] at hlisted
  refine ⟨_, hlisted, ?_⟩
  split
  · exact (List.mergeSort_perm _ _).trans hfiles
  · exact hfiles

/-- The files of a set are listed. -/
theorem listIn_of_pathsIn {paths : List String} {name : String} (kinds : List FileKind)
    (hname : replaceIn '.' '/' name = Path.slashed package)
    (hpaths : pathsIn d p (Path.slashed package) recurse = .ok paths)
    (hperm : paths.Perm ((s.below package recurse).map fun f => Path.slashed f.1))
    (hread : ∀ f ∈ s.files, readIn d p (Path.slashed f.1) = .ok (some f.2)) :
    ∃ files, listIn d p name kinds recurse = .ok files ∧
      (files.map File.description).Perm (s.listed package kinds recurse) := by
  obtain ⟨files, hfiles, hlisted⟩ :=
    listIn_eq_ok kinds hname hpaths hperm fun f hf => hread f (FileSet.mem_below.1 hf).1
  refine ⟨files, hfiles, (hlisted.map File.description).trans (List.Perm.of_eq ?_)⟩
  rw [List.map_map]
  rfl

end ResourcePath

end UnitFoundry
