import UnitFoundry.Overlay
import UnitFoundry.Proofs.ResourcePath.Places

/-!
# Packages, by names and by paths

Whether a file is below a package is asked in three ways: of its name, as a text that begins with the package and a
dot; of its path below a directory; and of its name in an archive, as a text again. All three compare the parts of
the package with those that the name of the file has above itself, as long as the path has no dots but the one of
the extension.

* `UnitName.parents`, `UnitName.LiesBelow` — the parts of the package of a name, and the test on them;
* `inPackage_dotted` — **it is what names are asked**;
* `parents_described`, `isBelow_iff_liesBelow` — **it is what paths are asked**.
-/

namespace UnitFoundry

open Text

/-! ## Texts that begin alike -/

namespace Text

variable {sep : Char} {s base : List Char} {front : List (List Char)}

/-- A text begins with certain pieces exactly if it has nothing else, or goes on after a separator. -/
theorem isPrefix_splitOn (hne : front ≠ []) (h : ∀ piece ∈ front, sep ∉ piece) :
    front <+: splitOn sep s ↔ s = joinWith sep front ∨ ∃ rest, s = joinWith sep front ++ sep :: rest := by
  constructor
  · rintro ⟨more, hmore⟩
    rw [← joinWith_splitOn sep s, ← hmore]
    by_cases hlast : more = []
    · subst hlast
      exact .inl (by rw [List.append_nil])
    · exact .inr ⟨_, joinWith_append hne hlast⟩
  · rintro (rfl | ⟨rest, rfl⟩)
    · rw [splitOn_joinWith hne h]
    · rw [splitOn_append, splitOn_joinWith hne h]
      exact List.prefix_append _ _

/-- The last piece is what comes after the last separator. -/
theorem cutLast_joinWith (hbase : sep ∉ base) (front : List (List Char)) :
    cutLast sep (joinWith sep (front ++ [base])) = (joinWith sep front, base) := by
  by_cases hfront : front = []
  · subst hfront
    exact cutLast_of_notMem hbase
  · rw [joinWith_append hfront (List.cons_ne_nil _ _)]
    exact cutLast_append hbase _

end Text

/-! ## Names -/

namespace UnitName

/-- The parts of the package that a name lies in. -/
def parents (name : String) : List String := if package name = "" then [] else pieces '.' (package name)

/-- Whether a name lies in a package, or anywhere below it. -/
def LiesBelow (parts : List String) (recurse : Bool) (name : String) : Prop :=
  parents name = parts ∨ recurse = true ∧ parts <+: parents name

instance (parts : List String) (recurse : Bool) (name : String) : Decidable (LiesBelow parts recurse name) :=
  instDecidableOr

end UnitName

variable {package : List String} {recurse : Bool} {name : String}

theorem Path.toList_dotted (package : List String) :
    (Path.dotted package).toList = joinWith '.' (package.map String.toList) := by
  rw [dotted, String.toList_intercalate, joinWith_eq_intercalate]
  rfl

/-- The parts of a package that is written out. -/
theorem Path.splitOn_dotted (hne : package ≠ []) (hpackage : ∀ c ∈ package, Path.IsPart c) :
    splitOn '.' (Path.dotted package).toList = package.map String.toList := by
  rw [toList_dotted, splitOn_joinWith (by simpa using hne) (by simpa using fun c hc => (hpackage c hc).dot)]

theorem Path.dotted_eq_empty (hpackage : ∀ c ∈ package, Path.IsPart c) : Path.dotted package = "" ↔ package = [] := by
  refine ⟨fun h => ?_, fun h => h ▸ rfl⟩
  by_contra hne
  have hpieces := splitOn_dotted hne hpackage
  rw [h] at hpieces
  have hempty : "" ∈ package := by
    obtain ⟨c, hc, hnil⟩ := List.mem_map.1 (hpieces ▸ List.mem_singleton_self [] : [] ∈ package.map String.toList)
    rwa [← String.toList_inj.1 (hnil.trans rfl : c.toList = "".toList)]
  exact (hpackage "" hempty).ne_empty rfl

theorem Path.pieces_dotted (hne : package ≠ []) (hpackage : ∀ c ∈ package, Path.IsPart c) :
    pieces '.' (Path.dotted package) = package := by
  rw [pieces, splitOn_dotted hne hpackage, List.map_map]
  exact List.map_id'' (fun c => String.ofList_toList) package

theorem UnitName.parents_of_package (hpackage : ∀ c ∈ package, Path.IsPart c)
    (h : UnitName.package name = Path.dotted package) : parents name = package := by
  rw [parents, h]
  split
  · rename_i hempty
    exact ((Path.dotted_eq_empty hpackage).1 hempty).symm
  · rename_i hempty
    exact Path.pieces_dotted ((Path.dotted_eq_empty hpackage).not.1 hempty) hpackage

/-- **Names are asked for the parts of the package.** -/
theorem inPackage_dotted (hpackage : ∀ c ∈ package, Path.IsPart c) :
    Overlay.inPackage name (Path.dotted package) recurse = true ↔ UnitName.LiesBelow package recurse name := by
  rw [Overlay.inPackage, UnitName.LiesBelow, UnitName.parents]
  generalize UnitName.package name = parent
  by_cases hempty : package = []
  · subst hempty
    by_cases hparent : parent = "" <;> simp [hparent, Path.dotted, pieces, splitOn_ne_nil]
  by_cases hparent : parent = ""
  · have hdotted := (Path.dotted_eq_empty hpackage).not.2 hempty
    simp [hparent, hempty, Ne.symm hempty, Ne.symm hdotted, hdotted, beginsWith_iff]
  · have hdots : ∀ piece ∈ package.map String.toList, '.' ∉ piece := by
      simpa using fun c hc => (hpackage c hc).dot
    have hstart : package <+: pieces '.' parent ↔
        parent = Path.dotted package ∨ beginsWith parent (Path.dotted package ++ ".") = true := by
      have hpieces : (pieces '.' parent).map String.toList = splitOn '.' parent.toList := by
        simp [pieces, Function.comp_def]
      rw [← List.prefix_map_iff_of_injective fun _ _ => String.toList_inj.1, hpieces,
        isPrefix_splitOn (by simpa using hempty) hdots, ← Path.toList_dotted, String.toList_inj, beginsWith_iff]
      simp [String.toList_append]
    have hwhole : pieces '.' parent = package ↔ parent = Path.dotted package := by
      constructor
      · intro h
        rw [← String.toList_inj, Path.toList_dotted, ← h, pieces, List.map_map]
        simp [Function.comp_def, joinWith_splitOn]
      · rintro rfl
        exact Path.pieces_dotted hempty hpackage
    rw [if_neg hparent, hwhole, hstart]
    cases recurse <;> simp [(Path.dotted_eq_empty hpackage).not.2 hempty, String.isEmpty_iff]

/-! ## Paths -/

/-- A path with no dots but the one of the extension. -/
structure Path.IsUndotted (parts : List String) : Prop where
  directories : ∀ c ∈ parts.dropLast, '.' ∉ c.toList
  file : (parts.getLastD "").toList.count '.' ≤ 1

instance (parts : List String) : Decidable (Path.IsUndotted parts) :=
  decidable_of_iff ((∀ c ∈ parts.dropLast, '.' ∉ c.toList) ∧ (parts.getLastD "").toList.count '.' ≤ 1)
    ⟨fun ⟨hd, hf⟩ => ⟨hd, hf⟩, fun ⟨hd, hf⟩ => ⟨hd, hf⟩⟩

/-- An extension is one of the last component. -/
theorem Path.exists_stem {directories : List String} {last : String} {stem extension : List Char}
    (hextension : '/' ∉ extension) (h : (slashed (directories ++ [last])).toList = stem ++ extension) :
    ∃ base, last.toList = base ++ extension ∧
      stem = joinWith '/' (directories.map String.toList ++ [base]) := by
  rw [toList_slashed, List.map_append] at h
  by_cases hfront : directories = []
  · subst hfront
    exact ⟨stem, h, rfl⟩
  rw [List.map_singleton, joinWith_append (by simpa using hfront) (List.cons_ne_nil _ _), joinWith] at h
  obtain ⟨rest, rfl, hrest⟩ | ⟨rest, -, hrest⟩ := List.append_eq_append_iff.1 h
  · cases rest with
    | nil => exact absurd (hrest ▸ List.mem_cons_self : '/' ∈ [] ++ extension) hextension
    | cons c base =>
      obtain ⟨rfl, hlast⟩ := List.cons.inj hrest
      exact ⟨base, hlast, by rw [joinWith_append (by simpa using hfront) (List.cons_ne_nil _ _), joinWith]⟩
  · exact absurd (hrest ▸ List.mem_append_right _ List.mem_cons_self) hextension

theorem FileKind.endsWith_of_ofPath? {path : String} {kind : FileKind} (h : ofPath? path = some kind) :
    endsWith path kind.extension = true := by
  unfold ofPath? at h
  split at h
  · cases h
    assumption
  · split at h
    · cases h
      assumption
    · cases h

theorem FileKind.count_extension (kind : FileKind) : kind.extension.toList.count '.' = 1 := by cases kind <;> decide

theorem FileKind.slash_notMem_extension (kind : FileKind) : '/' ∉ kind.extension.toList := by cases kind <;> decide

/-- The package of the file at a path is the directory that it is in. -/
theorem parents_described {parts : List String} {data : Bytes} (hparts : Path.IsRelative parts)
    (hundotted : Path.IsUndotted parts) {kind : FileKind} (hkind : FileKind.ofPath? (Path.slashed parts) = some kind) :
    UnitName.parents (FileSet.described (parts, data)).2.1 = parts.dropLast := by
  obtain ⟨directories, last, rfl⟩ : ∃ directories last, parts = directories ++ [last] :=
    ⟨_, _, (List.dropLast_concat_getLast hparts.1).symm⟩
  have hlast := hparts.2 last (by simp)
  have hdirectories : ∀ c ∈ directories, Path.IsPart c := fun c hc =>
    have hcomponent := hparts.2 c (by simp [hc])
    { ne_empty := hcomponent.ne_empty, slash := hcomponent.slash, null := hcomponent.null
      dot := hundotted.directories c (by simpa using hc) }
  obtain ⟨stem, hstem⟩ := endsWith_iff.1 (FileKind.endsWith_of_ofPath? hkind)
  obtain ⟨base, hbase, rfl⟩ := Path.exists_stem kind.slash_notMem_extension hstem
  have hslash : '/' ∉ base := fun hmem => hlast.slash (hbase ▸ List.mem_append_left _ hmem)
  have hdot : '.' ∉ base := by
    have hcount := hundotted.file
    rw [List.getLastD_concat, hbase, List.count_append, kind.count_extension] at hcount
    exact List.count_eq_zero.1 (by omega)
  have hname : (FileSet.described (directories ++ [last], data)).2.1 =
      String.ofList (joinWith '.' (directories.map String.toList ++ [base])) := by
    have hsuffix : withoutSuffix? kind.extension (Path.slashed (directories ++ [last])) =
        some (String.ofList (joinWith '/' (directories.map String.toList ++ [base]))) := by
      rw [withoutSuffix?, hstem, dropSuffix?_append, Option.map_some]
    show replaceIn '/' '.' ((withoutSuffix? ((FileKind.ofPath? (Path.slashed _)).getD .artifact).extension
      (Path.slashed _)).getD (Path.slashed _)) = _
    rw [hkind, Option.getD_some, hsuffix, Option.getD_some, replaceIn, String.toList_ofList, replaceChar_joinWith]
    intro piece hpiece
    rcases List.mem_append.1 hpiece with hmem | hmem
    · obtain ⟨c, hc, rfl⟩ := List.mem_map.1 hmem
      exact (hdirectories c hc).slash
    · exact List.mem_singleton.1 hmem ▸ hslash
  rw [List.dropLast_concat, hname]
  refine UnitName.parents_of_package hdirectories ?_
  rw [UnitName.package, String.toList_ofList, cutLast_joinWith hdot, ← Path.toList_dotted, String.ofList_toList]

/-- **Paths are asked for the parts of the package.** -/
theorem isBelow_iff_parents {parts : List String} (hne : parts ≠ []) (hname : UnitName.parents name = parts.dropLast) :
    FileSet.isBelow package recurse parts = true ↔ UnitName.LiesBelow package recurse name := by
  obtain ⟨directories, last, rfl⟩ : ∃ directories last, parts = directories ++ [last] :=
    ⟨_, _, (List.dropLast_concat_getLast hne).symm⟩
  rw [List.dropLast_concat] at hname
  rw [FileSet.isBelow_iff, UnitName.LiesBelow, hname]
  constructor
  · rintro ⟨rest, hrest, hparts, hdepth⟩
    obtain ⟨above, base, rfl⟩ : ∃ above base, rest = above ++ [base] :=
      ⟨_, _, (List.dropLast_concat_getLast hrest).symm⟩
    rw [← List.append_assoc] at hparts
    obtain ⟨rfl, -⟩ := List.append_inj' hparts rfl
    rcases hdepth with hrecurse | hlength
    · exact .inr ⟨hrecurse, List.prefix_append _ _⟩
    · have habove : above = [] := by simpa using hlength
      exact .inl (by rw [habove, List.append_nil])
  · rintro (rfl | ⟨hrecurse, more, rfl⟩)
    · exact ⟨[last], List.cons_ne_nil _ _, rfl, .inr rfl⟩
    · exact ⟨more ++ [last], by simp, by rw [List.append_assoc], .inl hrecurse⟩

end UnitFoundry
