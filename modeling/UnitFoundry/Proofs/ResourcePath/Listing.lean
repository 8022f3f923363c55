import UnitFoundry.Proofs.Packages

/-!
# Files of the resource path, place by place

What a place of the resource path lists for a package are its files with one of the two extensions, restricted by a
test on their kinds and names, the same for directories and for archives. A directory is an exception if the path of
the package is too long for it: the search ends there with a failure.

* `Disk.Offers` — the files that a place has;
* `File.IsWanted` — the test on files;
* `listIn_offers` — what one place lists;
* `exists_arranged`, `failure_listAll` — **the places list their files that pass the test**, exactly if the package is
  not too long.
-/

namespace UnitFoundry

open Text

variable {d : Disk} {p : Path} {s : FileSet} {package : List String} {recurse : Bool} {kinds : List FileKind}
  {files : List (List String × Bytes)}

/-- The files that a place of the resource path has: those in a directory; one for each entry of an archive that is
none of a directory, with the content of the last entry of this name; and none if the place is neither. -/
inductive Disk.Offers (d : Disk) (p : Path) : List (List String × Bytes) → Prop
  | directory {s : FileSet} (stocks : d.Stocks p s) : Offers d p s.files
  | archive {entries : List (String × Bytes)} {files : List (List String × Bytes)}
      (archive : d.node? p = some (.archive entries))
      (names : ((entries.map (·.1)).filter fun name => !endsWith name "/") = files.map fun f => Path.slashed f.1)
      (named : ∀ f ∈ files, Path.IsRelative f.1)
      (last : ∀ f ∈ files, lookupEntry (Path.slashed f.1) entries.reverse = some f.2) : Offers d p files
  | neither (directory : d.node? p ≠ some .directory)
      (archive : ∀ entries, d.node? p ≠ some (.archive entries)) : Offers d p []

/-- Whether the path of a package, or of a file, is too long for a place, which it can only be for a directory. -/
def Disk.Overlong (d : Disk) (p : Path) (package : List String) : Prop :=
  d.node? p = some .directory ∧ d.TooLong (p.extended package)

/-- Whether a file is of one of some kinds, and below a package by its name. -/
def File.IsWanted (kinds : List FileKind) (package : List String) (recurse : Bool) (f : File) : Prop :=
  f.kind ∈ kinds ∧ UnitName.LiesBelow package recurse f.name

instance (kinds : List FileKind) (package : List String) (recurse : Bool) (f : File) :
    Decidable (f.IsWanted kinds package recurse) := instDecidableAnd

namespace ResourcePath

/-- The files of a place that have one of the two extensions. -/
def unitFiles (d : Disk) (p : Path) (files : List (List String × Bytes)) : List File :=
  (files.filter fun f => (FileKind.ofPath? (Path.slashed f.1)).isSome).map (fileOf d p)

theorem isRelative_of_offers (h : d.Offers p files) {f : List String × Bytes} (hf : f ∈ files) :
    Path.IsRelative f.1 := by
  cases h with
  | @directory s => exact s.named f hf
  | archive _ _ named => exact named f hf
  | neither => cases hf

/-- The test is made on paths. -/
theorem filter_unitFiles (hnamed : ∀ f ∈ files, Path.IsRelative f.1 ∧ Path.IsUndotted f.1) :
    (unitFiles d p files).filter (·.IsWanted kinds package recurse) =
      (((files.filter fun f => FileSet.isBelow package recurse f.1).filter fun f =>
        (FileKind.ofPath? (Path.slashed f.1)).any kinds.contains).map (fileOf d p)) := by
  rw [unitFiles, List.filter_map, List.filter_filter, List.filter_filter]
  refine congrArg (List.map _) (List.filter_congr fun f hf => ?_)
  obtain ⟨hrelative, hundotted⟩ := hnamed f hf
  cases hkind : FileKind.ofPath? (Path.slashed f.1) with
  | none => simp
  | some kind =>
    have hparents : UnitName.parents (fileOf d p f).name = f.1.dropLast := parents_described hrelative hundotted hkind
    have hfile : (fileOf d p f).kind = kind := by
      show (FileKind.ofPath? (Path.slashed f.1)).getD .artifact = kind
      rw [hkind, Option.getD_some]
    rw [Bool.eq_iff_iff]
    simp [File.IsWanted, hfile, isBelow_iff_parents hrelative.1 hparents]

/-- What a place lists. -/
theorem listIn_offers (h : d.Offers p files) (hpackage : ∀ c ∈ package, Path.IsPart c)
    (hshort : ¬ d.Overlong p package) (kinds : List FileKind) (recurse : Bool) :
    ∃ listed, listIn d p (Path.dotted package) kinds recurse = .ok listed ∧ listed.Perm
      (((files.filter fun f => FileSet.isBelow package recurse f.1).filter fun f =>
        (FileKind.ofPath? (Path.slashed f.1)).any kinds.contains).map (fileOf d p)) := by
  have hcomponents : ∀ c ∈ package, Path.IsComponent c := fun c hc => (hpackage c hc).isComponent
  cases h with
  | @directory s h =>
    obtain ⟨paths, hpaths, hperm⟩ :=
      pathsIn_directory h hcomponents recurse fun hlong => hshort ⟨h.directory, hlong⟩
    refine listIn_eq_ok kinds (Path.replaceIn_dotted hpackage) hpaths hperm fun f hf => ?_
    have hf := (FileSet.mem_below.1 hf).1
    rw [readIn_directory h (s.named f hf) (h.not_tooLong hf), FileSet.content?_of_mem hf]
  | @archive entries _ harchive names named last =>
    have hpaths : pathsIn d p (Path.slashed package) recurse =
        .ok ((entries.map (·.1)).filter (isListed (Path.slashed package) recurse)) := by
      rw [pathsIn, harchive]
      rfl
    have hlisted : (entries.map (·.1)).filter (isListed (Path.slashed package) recurse) =
        (files.filter fun f => FileSet.isBelow package recurse f.1).map fun f => Path.slashed f.1 := by
      rw [filter_isListed, names, List.filter_map]
      exact congrArg (List.map _) (List.filter_congr fun f hf => isListed_slashed hcomponents (named f hf) recurse)
    refine listIn_eq_ok kinds (Path.replaceIn_dotted hpackage) hpaths (.of_eq hlisted) fun f hf => ?_
    rw [readIn, harchive]
    exact congrArg Except.ok (last f (List.mem_filter.1 hf).1)
  | neither hdirectory harchive =>
    have hpaths : pathsIn d p (Path.slashed package) recurse = .ok [] := by
      unfold pathsIn
      split
      · exact absurd ‹_› hdirectory
      · exact absurd ‹_› (harchive _)
      · rfl
    exact listIn_eq_ok kinds (Path.replaceIn_dotted hpackage) hpaths (.refl _) (List.forall_mem_nil _)

/-- A directory for which the package is too long lists nothing. -/
theorem listIn_overlong (h : d.Offers p files) (hpackage : ∀ c ∈ package, Path.IsPart c) (hlong : d.Overlong p package)
    (kinds : List FileKind) (recurse : Bool) : listIn d p (Path.dotted package) kinds recurse =
      .error (Refusal.nameTooLong.raised (p.extended package)) := by
  cases h with
  | directory h =>
    rw [listIn, Path.replaceIn_dotted hpackage,
      pathsIn_directory_of_tooLong h (fun c hc => (hpackage c hc).isComponent) recurse hlong.2]
    rfl
  | archive harchive => cases hlong.1.symm.trans harchive
  | neither hdirectory => exact absurd hlong.1 hdirectory

/-! ## Place by place -/

/-- Lists of files, one for each place, in which the files of the place stand in some order. -/
def Arranged (d : Disk) (stocks : List (Path × List (List String × Bytes))) (blocks : List (List File)) : Prop :=
  List.Forall₂ (fun stock block => block.Perm (unitFiles d stock.1 stock.2)) stocks blocks

variable {stocks : List (Path × List (List String × Bytes))}

/-- A list of some files that pass a test is part of a list of all files. -/
theorem exists_perm_filter {α : Type} {listed all : List α} {test : α → Bool} (h : listed.Perm (all.filter test)) :
    ∃ block : List α, block.Perm all ∧ block.filter test = listed := by
  refine ⟨listed ++ all.filter (!test ·), (h.append_right _).trans (List.filter_append_perm test all), ?_⟩
  have hlisted : ∀ f ∈ listed, test f = true := fun f hf => (List.mem_filter.1 (h.mem_iff.1 hf)).2
  rw [List.filter_append, List.filter_eq_self.2 hlisted, List.filter_filter]
  simp

/-- The places list their files, if the package is not too long. -/
theorem exists_arranged (hoffers : ∀ stock ∈ stocks, d.Offers stock.1 stock.2 ∧ ∀ f ∈ stock.2, Path.IsUndotted f.1)
    (hpackage : ∀ c ∈ package, Path.IsPart c) (hshort : ∀ stock ∈ stocks, ¬ d.Overlong stock.1 package)
    (kinds : List FileKind) (recurse : Bool) : ∃ blocks, Arranged d stocks blocks ∧
      listAll d (Path.dotted package) kinds recurse (stocks.map (·.1)) =
        { files := blocks.flatten.filter (·.IsWanted kinds package recurse) } := by
  induction stocks with
  | nil => exact ⟨[], .nil, rfl⟩
  | cons stock stocks ih =>
    rw [List.forall_mem_cons] at hoffers hshort
    obtain ⟨hoffer, hundotted⟩ := hoffers.1
    obtain ⟨listed, hlisted, hperm⟩ := listIn_offers hoffer hpackage hshort.1 kinds recurse
    rw [← filter_unitFiles fun f hf => ⟨isRelative_of_offers hoffer hf, hundotted f hf⟩] at hperm
    obtain ⟨block, hblock, rfl⟩ := exists_perm_filter hperm
    obtain ⟨blocks, hblocks, hlist⟩ := ih hoffers.2 hshort.2
    refine ⟨block :: blocks, .cons hblock hblocks, ?_⟩
    rw [List.map_cons, listAll, hlisted, hlist, List.flatten_cons, List.filter_append]
    rfl

/-- The search for files ends early exactly where the package is too long. -/
theorem failure_listAll (hoffers : ∀ stock ∈ stocks, d.Offers stock.1 stock.2)
    (hpackage : ∀ c ∈ package, Path.IsPart c) :
    (listAll d (Path.dotted package) kinds recurse (stocks.map (·.1))).failure = none ↔
      ∀ stock ∈ stocks, ¬ d.Overlong stock.1 package := by
  induction stocks with
  | nil => simp [listAll]
  | cons stock stocks ih =>
    rw [List.forall_mem_cons] at hoffers ⊢
    rw [← ih hoffers.2, List.map_cons, listAll]
    by_cases hlong : d.Overlong stock.1 package
    · rw [listIn_overlong hoffers.1 hpackage hlong]
      simp [hlong]
    · obtain ⟨listed, hlisted, -⟩ := listIn_offers hoffers.1 hpackage hlong kinds recurse
      rw [hlisted]
      simp [hlong, Listing.after]

end ResourcePath

end UnitFoundry
