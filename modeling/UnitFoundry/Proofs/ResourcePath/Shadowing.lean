import UnitFoundry.Proofs.ResourcePath.Listing
import UnitFoundry.Proofs.ResourcePath.Agreement
import Mathlib.Data.List.TakeWhile

/-!
# Files that hide others

Several places can have a file at the same path. A listing goes through all places and has all of these files, while
a search ends at the first of them. So the file that is found is the first one that is listed with its path, and what
is not listed is not found. An exception are paths that are too long for a directory: a search is refused there, even
if a later place, an archive, has a file at the path and lists it.

* `Sighting`, `sightings` — a file as one of the places has it, and all files of a place that a listing asks for;
* `exists_sighted` — what is listed, up to the first directory for which the package is too long;
* `Disk.Refuses` — whether the search for a path ends at such a directory;
* `findIn_eq`, `exists_findIn_error` — what is found, and when the search is refused;
* `find_first_listed` — **what is found is the first of what is listed**, unless the search is refused.
-/

namespace UnitFoundry

open Text

namespace ResourcePath

/-- A file as a place has it: at a path, with some bytes. -/
structure Sighting where
  place : Path
  parts : List String
  data : Bytes

/-- The file that is seen. -/
def Sighting.file (d : Disk) (y : Sighting) : File := fileOf d y.place (y.parts, y.data)

/-- Whether a path is that of a file of some kinds below a package, or directly in it. -/
def isSought (package : List String) (kinds : List FileKind) (recurse : Bool) (parts : List String) : Bool :=
  FileSet.isBelow package recurse parts && (FileKind.ofPath? (Path.slashed parts)).any kinds.contains

/-- The files of a place that are sought. -/
def sightings (package : List String) (kinds : List FileKind) (recurse : Bool)
    (stock : Path × List (List String × Bytes)) : List Sighting :=
  (stock.2.filter fun f => isSought package kinds recurse f.1).map fun f => ⟨stock.1, f.1, f.2⟩

/-- Lists of files, one for each place, in which the files of the place that are sought stand in some order. -/
def Sighted (package : List String) (kinds : List FileKind) (recurse : Bool)
    (stocks : List (Path × List (List String × Bytes))) (blocks : List (List Sighting)) : Prop :=
  List.Forall₂ (fun stock block => block.Perm (sightings package kinds recurse stock)) stocks blocks

end ResourcePath

instance (d : Disk) (p : Path) (parts : List String) : Decidable (d.Overlong p parts) := instDecidableAnd

/-- Whether the search for a path is refused: it is too long for a place, and no place before has a file there. -/
def Disk.Refuses (d : Disk) (parts : List String) : List (Path × List (List String × Bytes)) → Prop
  | [] => False
  | stock :: stocks => d.Overlong stock.1 parts ∨ (∀ f ∈ stock.2, f.1 ≠ parts) ∧ Refuses d parts stocks

variable {d : Disk} {p : Path} {package parts : List String} {kinds : List FileKind} {recurse : Bool}
  {files : List (List String × Bytes)} {stocks : List (Path × List (List String × Bytes))}

/-- A place for which a package is too long refuses to look for anything below it. -/
theorem Disk.Overlong.of_isBelow (h : d.Overlong p package) (hbelow : FileSet.isBelow package recurse parts = true) :
    d.Overlong p parts := by
  obtain ⟨rest, -, rfl, -⟩ := FileSet.isBelow_iff.1 hbelow
  exact ⟨h.1, h.2.append rest⟩

namespace ResourcePath

/-! ## One place -/

/-- A place has one file at a path, even if an archive has several entries for it. -/
theorem eq_of_offers (h : d.Offers p files) {f g : List String × Bytes} (hf : f ∈ files) (hg : g ∈ files)
    (hpath : f.1 = g.1) : f = g := by
  cases h with
  | @directory s => exact List.inj_on_of_nodup_map s.unique hf hg hpath
  | archive _ _ _ last => exact Prod.ext hpath (Option.some.inj ((last f hf).symm.trans (hpath ▸ last g hg)))
  | neither => cases hf

/-- What a place has under a path that is not too long. -/
theorem readIn_offers (h : d.Offers p files) (hparts : Path.IsRelative parts) (hshort : ¬ d.Overlong p parts) :
    readIn d p (Path.slashed parts) = .ok ((files.find? (·.1 = parts)).map (·.2)) := by
  cases h with
  | directory stocks => exact readIn_directory stocks hparts fun hlong => hshort ⟨stocks.directory, hlong⟩
  | @archive entries _ archive names named last =>
    rw [readIn, archive]
    refine congrArg Except.ok ?_
    cases hfind : files.find? (·.1 = parts) with
    | some f =>
      obtain rfl : f.1 = parts := by simpa using List.find?_some hfind
      exact last f (List.mem_of_find?_eq_some hfind)
    | none =>
      refine lookupEntry_eq_none fun e he hname => ?_
      have hfile : e.1 ∈ (entries.map (·.1)).filter fun name => !endsWith name "/" := by
        rw [List.mem_filter, hname, Path.endsWith_slashed hparts]
        exact ⟨hname ▸ List.mem_map_of_mem (List.mem_reverse.1 he), rfl⟩
      obtain ⟨f, hf, hpath⟩ := List.mem_map.1 (names ▸ hfile)
      have hpath : f.1 = parts := (Path.slashed_inj (named f hf).2 hparts.2).1 (hpath.trans hname)
      simpa [hpath] using List.find?_eq_none.1 hfind f hf
  | neither hdirectory harchive =>
    unfold readIn
    split
    · exact absurd ‹_› hdirectory
    · exact absurd ‹_› (harchive _)
    · rfl

/-- A path that is too long is refused. -/
theorem readIn_overlong (h : d.Offers p files) (hparts : Path.IsRelative parts) (hlong : d.Overlong p parts) :
    readIn d p (Path.slashed parts) = .error (Refusal.nameTooLong.raised (p.extended parts)) := by
  cases h with
  | directory stocks => exact readIn_directory_of_tooLong stocks hparts hlong.2
  | archive harchive => cases hlong.1.symm.trans harchive
  | neither hdirectory => exact absurd hlong.1 hdirectory

/-- Among the files that a place lists, the one with a path is the file that the place has there. -/
theorem find?_block {block : List Sighting} (h : d.Offers p files)
    (hblock : block.Perm (sightings package kinds recurse (p, files)))
    (hsought : isSought package kinds recurse parts = true) :
    block.find? (·.parts = parts) = (files.find? (·.1 = parts)).map fun f => ⟨p, f.1, f.2⟩ := by
  have hmem {y : Sighting} (hy : y ∈ block) : ∃ f ∈ files, y = ⟨p, f.1, f.2⟩ := by
    obtain ⟨f, hf, rfl⟩ := List.mem_map.1 (hblock.mem_iff.1 hy)
    exact ⟨f, (List.mem_filter.1 hf).1, rfl⟩
  cases hfind : files.find? (·.1 = parts) with
  | none =>
    refine List.find?_eq_none.2 fun y hy => ?_
    obtain ⟨f, hf, rfl⟩ := hmem hy
    exact List.find?_eq_none.1 hfind f hf
  | some f =>
    have hf := List.mem_of_find?_eq_some hfind
    obtain rfl : f.1 = parts := by simpa using List.find?_some hfind
    have hseen : (⟨p, f.1, f.2⟩ : Sighting) ∈ block :=
      hblock.mem_iff.2 (List.mem_map_of_mem (List.mem_filter.2 ⟨hf, hsought⟩))
    have hfound : (block.find? (·.parts = f.1)).isSome := List.find?_isSome.2 ⟨_, hseen, decide_eq_true rfl⟩
    obtain ⟨y, hy⟩ := Option.isSome_iff_exists.1 hfound
    obtain ⟨g, hg, rfl⟩ := hmem (List.mem_of_find?_eq_some hy)
    obtain rfl : g = f := eq_of_offers h hg hf (by simpa using List.find?_some hy)
    exact hy

/-! ## Place by place -/

/-- The files that are listed are those of the places that are sought. -/
theorem mem_flatten_iff {blocks : List (List Sighting)} (h : Sighted package kinds recurse stocks blocks)
    {y : Sighting} : y ∈ blocks.flatten ↔ ∃ stock ∈ stocks, y ∈ sightings package kinds recurse stock := by
  induction h with
  | nil => simp
  | cons hblock _ ih => rw [List.flatten_cons, List.mem_append, ih, hblock.mem_iff, List.exists_mem_cons_iff]

/-- **What is listed** are the files that are sought, place by place, up to the first place for which the package is
too long. -/
theorem exists_sighted (hoffers : ∀ stock ∈ stocks, d.Offers stock.1 stock.2)
    (hpackage : ∀ c ∈ package, Path.IsPart c) (kinds : List FileKind) (recurse : Bool) : ∃ blocks,
      Sighted package kinds recurse (stocks.takeWhile fun stock => ¬ d.Overlong stock.1 package) blocks ∧
      (listAll d (Path.dotted package) kinds recurse (stocks.map (·.1))).files =
        blocks.flatten.map (·.file d) := by
  induction stocks with
  | nil => exact ⟨[], .nil, rfl⟩
  | cons stock stocks ih =>
    rw [List.forall_mem_cons] at hoffers
    by_cases hlong : d.Overlong stock.1 package
    · refine ⟨[], ?_, ?_⟩
      · rw [List.takeWhile_cons_of_neg (by simpa using hlong)]
        exact .nil
      · rw [List.map_cons, listAll, listIn_overlong hoffers.1 hpackage hlong]
        rfl
    · obtain ⟨listed, hlisted, hperm⟩ := listIn_offers hoffers.1 hpackage hlong kinds recurse
      have hperm : listed.Perm ((sightings package kinds recurse stock).map (·.file d)) := by
        refine hperm.trans (.of_eq ?_)
        rw [sightings, List.filter_filter, List.map_map]
        exact congrArg (List.map _) (List.filter_congr fun f _ => Bool.and_comm ..)
      obtain ⟨block, rfl, hblock⟩ := (congrFun₂ (List.eq_map_comp_perm _) ..).mpr hperm
      obtain ⟨blocks, hblocks, hlist⟩ := ih hoffers.2
      refine ⟨block :: blocks, ?_, ?_⟩
      · rw [List.takeWhile_cons_of_pos (by simpa using hlong)]
        exact .cons hblock hblocks
      · rw [List.map_cons, listAll, hlisted, List.flatten_cons, List.map_append, ← hlist]
        rfl

/-- **What is found** is the first of the files that are listed with the path, if the search is not refused. -/
theorem findIn_eq (hoffers : ∀ stock ∈ stocks, d.Offers stock.1 stock.2) {blocks : List (List Sighting)}
    (hblocks : Sighted package kinds recurse (stocks.takeWhile fun stock => ¬ d.Overlong stock.1 package) blocks)
    (hparts : Path.IsRelative parts) (hsought : isSought package kinds recurse parts = true)
    (hrefuses : ¬ d.Refuses parts stocks) : findIn d (Path.slashed parts) (stocks.map (·.1)) =
      .ok ((blocks.flatten.find? (·.parts = parts)).map (·.file d)) := by
  induction stocks generalizing blocks with
  | nil =>
    cases hblocks
    rfl
  | cons stock stocks ih =>
    rw [List.forall_mem_cons] at hoffers
    rw [Disk.Refuses, not_or, not_and] at hrefuses
    obtain ⟨hshort, hlater⟩ := hrefuses
    have hpackage : ¬ d.Overlong stock.1 package := fun hlong =>
      hshort (hlong.of_isBelow (Bool.and_eq_true_iff.1 hsought).1)
    rw [List.takeWhile_cons_of_pos (by simpa using hpackage)] at hblocks
    obtain ⟨block, rest, hblock, hrest, rfl⟩ := List.forall₂_cons_left_iff.1 hblocks
    rw [List.map_cons, findIn, readIn_offers hoffers.1 hparts hshort, List.flatten_cons, List.find?_append,
      find?_block hoffers.1 hblock hsought]
    cases hfind : stock.2.find? (·.1 = parts) with
    | some f =>
      obtain rfl : f.1 = parts := by simpa using List.find?_some hfind
      rfl
    | none =>
      have hnone : ∀ f ∈ stock.2, f.1 ≠ parts := fun f hf => by simpa using List.find?_eq_none.1 hfind f hf
      exact ih hoffers.2 hrest (hlater hnone)

/-- The search is refused if the path is too long for a place that no place before spares the look at. -/
theorem exists_findIn_error (hoffers : ∀ stock ∈ stocks, d.Offers stock.1 stock.2) (hparts : Path.IsRelative parts)
    (hrefuses : d.Refuses parts stocks) :
    ∃ why, findIn d (Path.slashed parts) (stocks.map (·.1)) = .error why := by
  induction stocks with
  | nil => exact hrefuses.elim
  | cons stock stocks ih =>
    rw [List.forall_mem_cons] at hoffers
    rw [List.map_cons, findIn]
    by_cases hlong : d.Overlong stock.1 parts
    · rw [readIn_overlong hoffers.1 hparts hlong]
      exact ⟨_, rfl⟩
    · obtain ⟨hnone, hlater⟩ := hrefuses.resolve_left hlong
      have hfind : stock.2.find? (·.1 = parts) = none := List.find?_eq_none.2 fun f hf => by simpa using hnone f hf
      rw [readIn_offers hoffers.1 hparts hlong, hfind]
      exact ih hoffers.2 hlater

/-! ## All places -/

variable {r : ResourcePath}

/-- **A listing and a search go through the same files**: of the files that a listing asks for, a search finds the
first one that is listed with the path, and none if there is none. An exception are paths for which the search is
refused, which is a failure. -/
theorem find_first_listed (hplaces : r.places = stocks.map (·.1)) (hoffers : ∀ stock ∈ stocks, d.Offers stock.1 stock.2)
    (hpackage : ∀ c ∈ package, Path.IsPart c) (kinds : List FileKind) (recurse : Bool) : ∃ blocks,
      Sighted package kinds recurse (stocks.takeWhile fun stock => ¬ d.Overlong stock.1 package) blocks ∧
      (list r d (Path.dotted package) kinds recurse).files = blocks.flatten.map (·.file d) ∧
      ∀ (leading : Nat) (parts : List String), Path.IsRelative parts →
        isSought package kinds recurse parts = true →
        (¬ d.Refuses parts stocks → find r d (rooted leading parts) =
          .ok ((blocks.flatten.find? (·.parts = parts)).map (·.file d))) ∧
        (d.Refuses parts stocks → ∃ why, find r d (rooted leading parts) = .error why) := by
  obtain ⟨blocks, hblocks, hfiles⟩ := exists_sighted hoffers hpackage kinds recurse
  refine ⟨blocks, hblocks, ?_, fun leading parts hparts hsought => ?_⟩
  · rw [list, hplaces]
    exact hfiles
  · rw [find_rooted_places hparts, hplaces]
    exact ⟨findIn_eq hoffers hblocks hparts hsought, exists_findIn_error hoffers hparts⟩

/-! ### A directory before an archive -/

/-- A name for a source that has more bytes than the file system allows. -/
def longSource : String := String.ofList (List.replicate 256 'a' ++ ".py".toList)

theorem toList_longSource : longSource.toList = List.replicate 256 'a' ++ ".py".toList := String.toList_ofList

theorem isComponent_longSource : Path.IsComponent longSource where
  ne_empty := by decide +kernel
  ne_here := by decide +kernel
  ne_above := by decide +kernel
  slash := by rw [toList_longSource]; decide +kernel
  null := by rw [toList_longSource]; decide +kernel

theorem ofPath?_longSource : FileKind.ofPath? longSource = some .source := by
  rw [FileKind.ofPath?, endsWith, endsWith, withoutSuffix?, withoutSuffix?, toList_longSource]
  decide +kernel

/-- The files of an archive: a unit that the directory has as well, another one, and one with a long name. -/
def hiddenFiles : List (List String × Bytes) := [(["p", "A.py"], [2]), (["p", "B.py"], [3]), ([longSource], [4])]

theorem isRelative_hiddenFiles : ∀ f ∈ hiddenFiles, Path.IsRelative f.1 :=
  List.forall_mem_cons.2 ⟨by decide, List.forall_mem_cons.2 ⟨by decide, List.forall_mem_singleton.2
    ⟨List.cons_ne_nil _ _, List.forall_mem_singleton.2 isComponent_longSource⟩⟩⟩

/-- The entries of the archive. -/
def hiddenEntries : List (String × Bytes) := hiddenFiles.map fun f => (Path.slashed f.1, f.2)

/-- A directory with one unit, and an archive. -/
def twofoldDisk : Disk where
  nodes := [(["dir"], .directory), (["dir", "p"], .directory), (["dir", "p", "A.py"], .file [1]),
    (["zip"], .archive hiddenEntries)]

/-- The one file of the directory. -/
def twofoldFiles : FileSet where
  files := [(["p", "A.py"], [1])]
  unique := by decide
  named := by decide

/-- What the two places have. -/
def twofoldStocks : List (Path × List (List String × Bytes)) :=
  [(⟨1, ["dir"]⟩, twofoldFiles.files), (⟨1, ["zip"]⟩, hiddenFiles)]

theorem twofold_in_directory : twofoldDisk.Stocks ⟨1, ["dir"]⟩ twofoldFiles where
  unique := by decide
  directory := by decide +kernel
  files := by decide +kernel
  only {place rest node} hplace hrest hmem := by
    obtain rfl : ["dir"] = place := by
      have h : twofoldDisk.locate ⟨1, ["dir"]⟩ = .ok ["dir"] := by decide +kernel
      exact Except.ok.inj (h.symm.trans hplace)
    simp [twofoldDisk, twofoldFiles] at hmem ⊢
    grind

theorem twofold_offers : ∀ stock ∈ twofoldStocks, twofoldDisk.Offers stock.1 stock.2 := by
  have harchive : twofoldDisk.node? ⟨1, ["zip"]⟩ = some (.archive hiddenEntries) := by decide +kernel
  refine List.forall_mem_cons.2 ⟨.directory twofold_in_directory, List.forall_mem_singleton.2 ?_⟩
  refine .archive harchive ?_ isRelative_hiddenFiles (by decide +kernel)
  rw [hiddenEntries, List.map_map, List.filter_eq_self.2]
  · rfl
  · intro name hname
    obtain ⟨f, hf, rfl⟩ := List.mem_map.1 hname
    simp [Path.endsWith_slashed (isRelative_hiddenFiles f hf)]

/-- The directory and the archive as a resource path. -/
def twofold : ResourcePath := ⟨[⟨1, ["dir"]⟩, ⟨1, ["zip"]⟩]⟩

/-- Of the unit that both places have, the file of the directory is found. -/
theorem twofold_find_first_listed :
    (twofold.places = twofoldStocks.map (·.1) ∧ (∀ stock ∈ twofoldStocks, twofoldDisk.Offers stock.1 stock.2) ∧
      Path.IsPart "p" ∧ Path.IsRelative ["p", "A.py"]) ∧
    ∃ blocks, Sighted ["p"] FileKind.all true twofoldStocks blocks ∧
      (list twofold twofoldDisk (Path.dotted ["p"]) FileKind.all true).files =
        blocks.flatten.map (·.file twofoldDisk) ∧
      find twofold twofoldDisk (rooted 1 ["p", "A.py"]) =
        .ok ((blocks.flatten.find? (·.parts = ["p", "A.py"])).map (·.file twofoldDisk)) := by
  have hpart : Path.IsPart "p" := by decide
  have hrelative : Path.IsRelative ["p", "A.py"] := by decide
  obtain ⟨blocks, hblocks, hfiles, hfind⟩ := find_first_listed (r := twofold) rfl twofold_offers
    (List.forall_mem_singleton.2 hpart) FileKind.all true
  have hshort : twofoldStocks.takeWhile (fun stock => ¬ twofoldDisk.Overlong stock.1 ["p"]) = twofoldStocks :=
    List.takeWhile_eq_self_iff.2 (by decide +kernel)
  rw [hshort] at hblocks
  refine ⟨⟨rfl, twofold_offers, hpart, hrelative⟩, blocks, hblocks, hfiles,
    (hfind 1 ["p", "A.py"] hrelative (by decide +kernel)).1 ?_⟩
  rintro (hlong | ⟨hnone, -⟩)
  · exact absurd hlong (by decide +kernel)
  · exact hnone _ List.mem_cons_self rfl

/-- The source with the long name is listed in the archive, but the directory refuses to look for it. -/
theorem longSource_hidden :
    (twofold.places = twofoldStocks.map (·.1) ∧ (∀ stock ∈ twofoldStocks, twofoldDisk.Offers stock.1 stock.2) ∧
      Path.IsRelative [longSource]) ∧
    fileIn twofoldDisk ⟨1, ["zip"]⟩ longSource [4] ∈
      (list twofold twofoldDisk (Path.dotted []) [.source] false).files ∧
    find twofold twofoldDisk (rooted 0 [longSource]) =
      .error (Refusal.nameTooLong.raised ⟨1, ["dir", longSource]⟩) := by
  have hrelative : Path.IsRelative [longSource] :=
    isRelative_hiddenFiles _ (List.mem_cons_of_mem _ (List.mem_cons_of_mem _ List.mem_cons_self))
  refine ⟨⟨rfl, twofold_offers, hrelative⟩, ?_, ?_⟩
  · obtain ⟨blocks, hblocks, hfiles⟩ :=
      exists_sighted twofold_offers (List.forall_mem_nil _) [.source] false
    have hshort : twofoldStocks.takeWhile (fun stock => ¬ twofoldDisk.Overlong stock.1 []) = twofoldStocks :=
      List.takeWhile_eq_self_iff.2 (by decide +kernel)
    rw [hshort] at hblocks
    show _ ∈ (listAll _ _ _ _ (twofoldStocks.map (·.1))).files
    rw [hfiles]
    have hsought : isSought [] [.source] false [longSource] = true := by
      rw [isSought, show Path.slashed [longSource] = longSource from rfl, ofPath?_longSource]
      rfl
    have hseen : (⟨⟨1, ["zip"]⟩, [longSource], [4]⟩ : Sighting) ∈
        sightings [] [.source] false (⟨1, ["zip"]⟩, hiddenFiles) :=
      List.mem_map.2 ⟨([longSource], [4]), List.mem_filter.2 ⟨by simp [hiddenFiles], hsought⟩, rfl⟩
    have hstock : (⟨1, ["zip"]⟩, hiddenFiles) ∈ twofoldStocks := List.mem_cons_of_mem _ List.mem_cons_self
    exact List.mem_map.2 ⟨_, (mem_flatten_iff hblocks).2 ⟨_, hstock, hseen⟩, rfl⟩
  · have hdirectory : twofoldDisk.Offers ⟨1, ["dir"]⟩ twofoldFiles.files := twofold_offers _ List.mem_cons_self
    have hlong : twofoldDisk.Overlong ⟨1, ["dir"]⟩ [longSource] := by decide +kernel
    rw [find_rooted_places hrelative]
    show findIn _ _ (⟨1, ["dir"]⟩ :: _) = _
    rw [findIn, readIn_overlong hdirectory hrelative hlong]
    rfl

end ResourcePath

end UnitFoundry
