import UnitFoundry.Proofs.Entries
import UnitFoundry.Proofs.Store

/-!
# What a durable store keeps

A durable store is a finite map from the names of units to artifacts, kept as files: an artifact is found under a name
exactly if it was saved under this name since the store was cleared for the last time, and it is the one that was
saved last. The files of different units never get into each other's way, not even those of a unit and of one in a
package of the same name, for artifacts have an extension and directories have none.

What a lookup cannot do is to say that nothing is there under a name that is too long for the file system: it fails.

* `UnitName.IsDotted`, `IsDotted.components_eq` — the names of units, and the paths of their artifacts;
* `Disk.Roomier` — trees to which directories have been added only;
* `DurableStore.Shelved` — the tree of a store, which holds the artifacts that are kept and else directories;
* `Shelved.save`, `Shelved.clear` — **what one successful operation makes of it**;
* `kept`, `lastSaved` — what is to be found after a sequence of operations;
* `contents_iff` — **what is found after any sequence of successful operations**.
-/

namespace UnitFoundry

open Text

/-! ## Names of units -/

/-- A name made of parts with dots between them. -/
def UnitName.IsDotted (name : String) : Prop :=
  ∃ parts, parts ≠ [] ∧ (∀ c ∈ parts, Path.IsPart c) ∧ name = Path.dotted parts

theorem Path.slashed_concat (package : List String) (c ending : String) :
    slashed (package ++ [c]) ++ ending = slashed (package ++ [c ++ ending]) := by
  rw [← String.toList_inj, String.toList_append, toList_slashed, toList_slashed, List.map_append, List.map_append]
  cases package with
  | nil => exact String.toList_append.symm
  | cons first rest =>
    rw [joinWith_append (by simp) (by simp), joinWith_append (by simp) (by simp)]
    simp [joinWith, String.toList_append]

namespace UnitName.IsDotted

variable {name other : String}

theorem isComponent_artifact {c : String} (h : Path.IsPart c) : Path.IsComponent (c ++ artifactExtension) := by
  have hletter : 'p' ∈ (c ++ artifactExtension).toList := by
    rw [String.toList_append]
    exact List.mem_append_right _ (by decide)
  have hother {d : String} (hd : 'p' ∉ d.toList) : c ++ artifactExtension ≠ d := fun heq => hd (heq ▸ hletter)
  have hmem {b : Char} (hc : b ∉ c.toList) (hb : b ∉ artifactExtension.toList) :
      b ∉ (c ++ artifactExtension).toList := by
    rw [String.toList_append, List.mem_append, not_or]
    exact ⟨hc, hb⟩
  exact ⟨hother (by decide), hother (by decide), hother (by decide), hmem h.slash (by decide), hmem h.null (by decide)⟩

/-- The path of an artifact: a directory for each part of the package, and a file with an extension. -/
theorem ofString_toPath_dotted {package : List String} {simple : String} (hpackage : ∀ c ∈ package, Path.IsPart c)
    (hsimple : Path.IsPart simple) : Path.ofString (toPath (Path.dotted (package ++ [simple])) artifactExtension) =
      ⟨0, package ++ [simple ++ artifactExtension]⟩ := by
  have hparts : ∀ c ∈ package ++ [simple], Path.IsPart c := by
    simpa [or_imp, forall_and] using ⟨hpackage, hsimple⟩
  rw [toPath, Path.replaceIn_dotted hparts, Path.slashed_concat]
  refine Path.ofString_slashed fun c hc => ?_
  rcases List.mem_append.1 hc with hmem | hlast
  · exact (hpackage c hmem).isComponent
  · rw [List.mem_singleton.1 hlast]
    exact isComponent_artifact hsimple

theorem components_eq (h : IsDotted name) : ∃ package simple, (∀ c ∈ package, Path.IsPart c) ∧ Path.IsPart simple ∧
    name = Path.dotted (package ++ [simple]) ∧
    Path.ofString (toPath name artifactExtension) = ⟨0, package ++ [simple ++ artifactExtension]⟩ := by
  obtain ⟨parts, hne, hparts, rfl⟩ := h
  obtain ⟨package, simple, rfl⟩ : ∃ package simple, parts = package ++ [simple] :=
    ⟨parts.dropLast, parts.getLast hne, (List.dropLast_concat_getLast hne).symm⟩
  simp only [List.mem_append, List.mem_singleton] at hparts
  have hpackage : ∀ c ∈ package, Path.IsPart c := fun c hc => hparts c (.inl hc)
  exact ⟨package, simple, hpackage, hparts simple (.inr rfl), rfl,
    ofString_toPath_dotted hpackage (hparts simple (.inr rfl))⟩

theorem isPlain (h : IsDotted name) : IsPlain name := by
  obtain ⟨package, simple, -, -, -, hpath⟩ := h.components_eq
  exact slashes_toPath.1 (congrArg Path.slashes hpath)

theorem isComponent (h : IsDotted name) : ∀ c ∈ components name, Path.IsComponent c := by
  obtain ⟨package, simple, hpackage, hsimple, -, hpath⟩ := h.components_eq
  intro c hc
  rw [components, hpath] at hc
  rcases List.mem_append.1 hc with hmem | hlast
  · exact (hpackage c hmem).isComponent
  · rw [List.mem_singleton.1 hlast]
    exact isComponent_artifact hsimple

/-- The directories above an artifact. -/
theorem isPart_of_mem_dropLast (h : IsDotted name) : ∀ c ∈ (components name).dropLast, Path.IsPart c := by
  obtain ⟨package, simple, hpackage, -, -, hpath⟩ := h.components_eq
  rw [components, hpath, List.dropLast_concat]
  exact hpackage

theorem endsWith_getLast (h : IsDotted name) : endsWith ((components name).getLastD "") artifactExtension = true := by
  obtain ⟨package, simple, -, -, -, hpath⟩ := h.components_eq
  rw [components, hpath, List.getLastD_concat]
  exact endsWith_iff.2 ⟨_, String.toList_append⟩

/-- **Different units have different files.** -/
theorem components_inj (h : IsDotted name) (h' : IsDotted other) : components name = components other ↔ name = other := by
  refine ⟨fun heq => ?_, fun heq => heq ▸ rfl⟩
  obtain ⟨package, simple, -, -, rfl, hpath⟩ := h.components_eq
  obtain ⟨package', simple', -, -, rfl, hpath'⟩ := h'.components_eq
  rw [components, components, hpath, hpath'] at heq
  obtain ⟨rfl, hlast⟩ := List.append_inj' heq rfl
  have hsimple : simple = simple' := String.append_left_inj artifactExtension |>.1 (List.singleton_inj.1 hlast)
  rw [hsimple]

end UnitName.IsDotted

/-! ## Trees -/

namespace Disk

variable {d e f : Disk} {place other : List String} {node : Node} {places : List String → Prop}

theorem get?_of_mem (hunique : (d.nodes.map (·.1)).Nodup) (hne : place ≠ []) (h : (place, node) ∈ d.nodes) :
    d.get? place = some node := by
  obtain ⟨part, rest, rfl⟩ := List.exists_cons_of_ne_nil hne
  obtain ⟨found, hfound⟩ := Option.isSome_iff_exists.1
    (List.find?_isSome.2 ⟨_, h, decide_eq_true rfl⟩ : (d.nodes.find? (·.1 = part :: rest)).isSome)
  have hsame : found.1 = part :: rest := by simpa using List.find?_some hfound
  obtain rfl := List.inj_on_of_nodup_map hunique (List.mem_of_find?_eq_some hfound) h hsame
  show (d.nodes.find? (·.1 = part :: rest)).map (·.2) = _
  rw [hfound]
  rfl

theorem unique_put (hunique : (d.nodes.map (·.1)).Nodup) (place : List String) (node : Node) :
    ((d.put place node).nodes.map (·.1)).Nodup := by
  unfold put
  split
  · have hkeys {f : List String × Node → List String × Node} (hf : ∀ n, (f n).1 = n.1) :
        (d.nodes.map f).map (·.1) = d.nodes.map (·.1) := by
      rw [List.map_map]
      exact List.map_congr_left fun n _ => hf n
    rwa [hkeys fun n => by dsimp only; split <;> rfl]
  · rename_i hnone
    rw [List.map_append]
    refine hunique.append (List.nodup_singleton place) fun q hq hplace => hnone ?_
    obtain ⟨n, hn, rfl⟩ := List.mem_map.1 hq
    exact List.any_eq_true.2 ⟨n, hn, decide_eq_true (List.mem_singleton.1 hplace)⟩

theorem unique_delete (hunique : (d.nodes.map (·.1)).Nodup) (place : List String) :
    ((d.delete place).nodes.map (·.1)).Nodup := hunique.sublist (List.filter_sublist.map _)

/-- A tree to which directories have been added, where there was nothing. -/
structure Roomier (places : List String → Prop) (d e : Disk) : Prop where
  unique : (d.nodes.map (·.1)).Nodup → (e.nodes.map (·.1)).Nodup
  added : ∀ place, e.get? place = d.get? place ∨
    d.get? place = none ∧ e.get? place = some .directory ∧ places place

namespace Roomier

theorem refl (places : List String → Prop) (d : Disk) : Roomier places d d := ⟨fun h => h, fun _ => .inl rfl⟩

theorem trans (h : Roomier places d e) (h' : Roomier places e f) : Roomier places d f where
  unique hd := h'.unique (h.unique hd)
  added place := by
    rcases h.added place with hsame | ⟨hnone, hadded, hplace⟩
    · rcases h'.added place with hsame' | ⟨hnone', hadded', hplace'⟩
      · exact .inl (hsame'.trans hsame)
      · exact .inr ⟨hsame ▸ hnone', hadded', hplace'⟩
    · rcases h'.added place with hsame' | ⟨hnone', -, -⟩
      · exact .inr ⟨hnone, hsame'.trans hadded, hplace⟩
      · cases hadded.symm.trans hnone'

theorem mono {others : List String → Prop} (h : Roomier places d e) (himp : ∀ place, places place → others place) :
    Roomier others d e :=
  ⟨h.unique, fun place => (h.added place).imp_right fun ⟨hnone, hadded, hplace⟩ => ⟨hnone, hadded, himp place hplace⟩⟩

theorem put (hplace : places place) (hnone : d.get? place = none) : Roomier places d (d.put place .directory) where
  unique hd := unique_put hd place .directory
  added other := by
    by_cases hother : other = place
    · subst hother
      refine .inr ⟨hnone, get?_put (fun hnil => ?_) d _, hplace⟩
      rw [hnil] at hnone
      cases hnone
    · exact .inl (get?_put_of_ne hother d _)

end Roomier

end Disk

/-! ## Directories of a package -/

namespace DurableStore

variable {store : DurableStore} {d e : Disk} {root place parts : List String} {name : String} {data : Bytes}

/-- The directories that lead from the place of a store down to a package. -/
def LeadsTo (root package place : List String) : Prop := ∃ above, above <+: package ∧ place = root ++ above

theorem makeDirectory_roomier (h : store.LiesIn d root) (hdown : ".." ∉ parts)
    (hmake : d.makeDirectory (store.directory.extended parts) = .ok e) : Disk.Roomier (LeadsTo root parts) d e := by
  obtain ⟨place, hlocate, hnone, rfl⟩ := makeDirectory_eq_ok hmake
  obtain rfl := h.target (.inl rfl) hdown hlocate
  exact .put ⟨parts, List.prefix_refl parts, rfl⟩ hnone

theorem makeDirectories_roomier (h : store.LiesIn d root) (hdown : ".." ∉ parts) {depth : Nat} {failed : Option Raised}
    (hmake : d.makeDirectoriesWithin (fun _ _ => none) depth (store.directory.extended parts) = (e, failed)) :
    Disk.Roomier (LeadsTo root parts) d e := by
  induction depth generalizing parts e failed with
  | zero =>
    rcases makeDirectories_cases hmake with ⟨rfl, -⟩ | ⟨hone, -⟩ | ⟨fewer, -, -, -, hdepth, -⟩
    · exact .refl _ _
    · exact makeDirectory_roomier h hdown hone
    · cases hdepth
  | succ depth ih =>
    rcases makeDirectories_cases hmake with ⟨rfl, -⟩ | ⟨hone, -⟩ |
      ⟨fewer, missing, made, above, hdepth, -, -, htry, hmissing, habove, hlast⟩
    · exact .refl _ _
    · exact makeDirectory_roomier h hdown hone
    · obtain rfl := Nat.succ.inj hdepth
      have hne : parts ≠ [] := by
        rintro rfl
        have hself : store.directory.extended [] = store.directory := by simp [Path.extended]
        exact h.makeDirectory_ne (.inl rfl) (hself ▸ noEntry_of_isMissing htry hmissing)
      have hup : ".." ∉ parts.dropLast := fun hmem => hdown (List.mem_of_mem_dropLast hmem)
      rw [parent_extended hne] at habove
      have hmade : Disk.Roomier (LeadsTo root parts) d made := by
        refine (ih hup habove).mono ?_
        rintro place ⟨above, hstart, hplace⟩
        exact ⟨above, hstart.trans (List.dropLast_prefix parts), hplace⟩
      rcases hlast with ⟨rfl, -⟩ | ⟨-, hlast, -⟩
      · exact hmade
      · exact hmade.trans (makeDirectory_roomier (h.grown (makeDirectories_grown h (.inl rfl) hup habove)) hdown hlast)

/-! ## A successful save -/

/-- The steps of a save that succeeds. -/
theorem save_eq_ok (h : store.save d name data = (e, none)) : ∃ made n written,
    d.makeDirectoriesWithin (fun _ _ => none) Disk.nestingLimit (store.pathOf name).parent = (made, none) ∧
    made.write (temporaryPath made (store.pathOf name) (({} : Circumstances).mark n)) data = .ok written ∧
    written.rename (temporaryPath made (store.pathOf name) (({} : Circumstances).mark n)) (store.pathOf name) = .ok e := by
  rw [save] at h
  rcases saveIn_cases h with ⟨hfailed, -⟩ | ⟨made, fault, hmake, hreplace, hfault⟩
  · exact absurd rfl hfailed
  obtain rfl := Option.map_eq_none_iff.1 hfault.symm
  rcases replaceFile_cases hreplace with ⟨-, hfailed⟩ | ⟨n, written, f, -, hwrite, ⟨why, hgiven⟩ | ⟨rfl, hrename, -⟩⟩
  · exact absurd rfl hfailed
  · cases (abandon_cases hgiven).1
  · exact ⟨made, n, f, hmake, hwrite, hrename⟩

/-- The path of the artifact of a unit. -/
theorem pathOf_eq (hname : UnitName.IsDotted name) (store : DurableStore) :
    store.pathOf name = store.directory.extended (UnitName.components name) := by
  rw [pathOf, Path.append, UnitName.ofString_toPath hname.isPlain]
  rfl

/-- A place where the store keeps the artifact of some unit. -/
def IsArtifact (root place : List String) : Prop :=
  ∃ name, UnitName.IsDotted name ∧ place = root ++ UnitName.components name

/-- A temporary file is not named like an artifact. -/
theorem not_isArtifact_temporary {beside : String} (hending : endsWith beside ".tmp" = true) (above : List String) :
    ¬ IsArtifact root (root ++ (above ++ [beside])) := by
  rintro ⟨other, hdotted, heq⟩
  have hlast := hdotted.endsWith_getLast
  rw [← List.append_cancel_left heq, List.getLastD_concat] at hlast
  obtain ⟨x, hx⟩ := endsWith_iff.1 hlast
  obtain ⟨y, hy⟩ := endsWith_iff.1 hending
  have hends := congrArg List.getLast? (hx.symm.trans hy)
  simp [UnitName.artifactExtension] at hends

/-- What a save does to the tree: directories are added, a temporary file is written, and renamed. -/
theorem save_tree (h : store.LiesIn d root) (hname : UnitName.IsDotted name)
    (hsave : store.save d name data = (e, none)) : ∃ made temporary,
      Disk.Roomier (LeadsTo root (UnitName.components name).dropLast) d made ∧
      temporary ≠ [] ∧ ¬ IsArtifact root temporary ∧
      e = ((made.put temporary (.file data)).delete temporary).put (root ++ UnitName.components name) (.file data) ∧
      e.locate (store.pathOf name) = .ok (root ++ UnitName.components name) := by
  obtain ⟨made, n, written, hmake, hwrite, hrename⟩ := save_eq_ok hsave
  have hne := UnitName.components_ne_nil name
  have hdown := UnitName.up_notMem_components name
  have hup : ".." ∉ (UnitName.components name).dropLast := fun hmem => hdown (List.mem_of_mem_dropLast hmem)
  obtain ⟨beside, hbeside, hending, htemporary⟩ :=
    temporaryPath_eq hne (fun c => UnitName.slash_notMem_of_mem_components) (slash_notMem_mark n) made store.directory
  have hbelow : ".." ∉ (UnitName.components name).dropLast ++ [beside] := by simp [hup, Ne.symm hbeside]
  rw [pathOf_eq hname] at hmake hwrite hrename
  rw [htemporary] at hwrite hrename
  rw [parent_extended hne] at hmake
  have hmade : Disk.Grown root d made := makeDirectories_grown h (.inl rfl) hup hmake
  obtain ⟨temporary, hthere, hplain, rfl⟩ := write_eq_ok hwrite
  have hplace := (h.grown hmade).target_absolute (.inl rfl) hbelow hthere
  have hinside : root <+: temporary := hplace ▸ List.prefix_append root _
  have hnonempty : temporary ≠ [] := by simp [hplace]
  have hput : Disk.Grown root made (made.put temporary (.file data)) := .put hinside hnonempty (.inr hplain)
  obtain ⟨old, new, node, hold, hnew, hnode, -, he⟩ := rename_eq_ok hrename
  obtain rfl : temporary = old := Except.ok.inj ((hput.locate_eq_ok hthere).symm.trans hold)
  obtain rfl := (h.grown (hmade.trans hput)).target (.inl rfl) hdown hnew
  obtain rfl : Node.file data = node := Option.some.inj ((Disk.get?_put hnonempty made _).symm.trans hnode)
  have hrenamed : Disk.Grown root (made.put temporary (.file data)) e := by
    refine rename_grown (fun place hother => ?_) (fun place hother => ?_) hrename
    · cases hold.symm.trans hother
      exact ⟨hinside, hnonempty, by rw [hnode]; simp⟩
    · cases hnew.symm.trans hother
      exact ⟨List.prefix_append root _, by simp [hne]⟩
  exact ⟨made, temporary, makeDirectories_roomier h hup hmake, hnonempty,
    hplace ▸ not_isArtifact_temporary hending _, he, pathOf_eq hname store ▸ hrenamed.locate_eq_ok hnew⟩

/-- What a tree has after a save: the artifact, and else what it had before, except for directories above the artifact
that are new, and for one place where no artifact is. -/
theorem save_get? (h : store.LiesIn d root) (hname : UnitName.IsDotted name)
    (hsave : store.save d name data = (e, none)) :
    e.get? (root ++ UnitName.components name) = some (.file data) ∧
    ∀ place, place ≠ root ++ UnitName.components name → e.get? place = d.get? place ∨
      (¬ IsArtifact root place ∧ e.get? place = none) ∨
      d.get? place = none ∧ e.get? place = some .directory ∧ LeadsTo root (UnitName.components name).dropLast place := by
  obtain ⟨made, temporary, hroomier, hnonempty, hother, rfl, -⟩ := save_tree h hname hsave
  have hne : root ++ UnitName.components name ≠ [] := by simp [UnitName.components_ne_nil]
  refine ⟨Disk.get?_put hne _ _, fun place hplace => ?_⟩
  rw [Disk.get?_put_of_ne hplace]
  by_cases htemporary : place = temporary
  · subst htemporary
    exact .inr (.inl ⟨hother, Disk.get?_delete hnonempty _⟩)
  · rw [Disk.get?_delete_of_ne htemporary, Disk.get?_put_of_ne htemporary]
    exact (hroomier.added place).imp_right .inr

theorem save_unique (h : store.LiesIn d root) (hname : UnitName.IsDotted name)
    (hsave : store.save d name data = (e, none)) (hunique : (d.nodes.map (·.1)).Nodup) :
    (e.nodes.map (·.1)).Nodup := by
  obtain ⟨made, temporary, hroomier, -, -, rfl, -⟩ := save_tree h hname hsave
  exact Disk.unique_put (Disk.unique_delete (Disk.unique_put (hroomier.unique hunique) _ _) _) _ _

/-! ## A clearing -/

/-- What a tree has after some files have been taken away. -/
theorem removeAll_eq_ok {paths : List Path}
    (hpaths : ∀ path ∈ paths, ∀ f place, Disk.Grown root d f → f.locate path = .ok place → root <+: place ∧ place ≠ [])
    (hremove : removeAll d paths = (e, none)) :
    Disk.Grown root d e ∧ ((d.nodes.map (·.1)).Nodup → (e.nodes.map (·.1)).Nodup) ∧
    (∀ place, e.get? place = d.get? place ∨ e.get? place = none ∧ d.get? place ≠ some .directory) ∧
    ∀ path ∈ paths, ∀ place, d.locate path = .ok place → e.get? place = none := by
  induction paths generalizing d with
  | nil =>
    cases hremove
    exact ⟨.refl root _, fun hunique => hunique, fun _ => .inl rfl, nofun⟩
  | cons path rest ih =>
    rw [removeAll] at hremove
    split at hremove
    · rename_i f hfirst
      have hone : Disk.Grown root d f := remove_grown
        (fun place hplace => (hpaths path List.mem_cons_self d place (.refl root d) hplace).1) hfirst
      obtain ⟨hgrown, hunique, hget, hgone⟩ := ih (fun other hother g place hg =>
        hpaths other (List.mem_cons_of_mem _ hother) g place (hone.trans hg)) hremove
      have hrest : ∀ other ∈ rest, ∀ place, d.locate other = .ok place → e.get? place = none :=
        fun other hother place hplace => hgone other hother place (hone.locate_eq_ok hplace)
      have hnone {place : List String} (hf : f.get? place = none) : e.get? place = none := by
        rcases hget place with hsame | ⟨hnone, -⟩
        · exact hsame.trans hf
        · exact hnone
      rcases remove_eq_ok hfirst with ⟨rfl, hempty⟩ | ⟨place, hplace, hfile, rfl⟩
      · refine ⟨hgrown, hunique, hget, List.forall_mem_cons.2 ⟨fun place hplace => ?_, hrest⟩⟩
        exact hnone (hempty place hplace)
      · have hne := (hpaths path List.mem_cons_self d place (.refl root d) hplace).2
        refine ⟨hone.trans hgrown, fun hd => hunique (Disk.unique_delete hd place), fun other => ?_,
          List.forall_mem_cons.2 ⟨fun other hother => ?_, hrest⟩⟩
        · by_cases heq : other = place
          · subst heq
            exact .inr ⟨hnone (Disk.get?_delete hne d), hfile⟩
          · have hother := hget other
            rwa [Disk.get?_delete_of_ne heq] at hother
        · cases hplace.symm.trans hother
          exact hnone (Disk.get?_delete hne d)
    · cases hremove

theorem mem_saved {path : Path} (h : d.locate store.directory = .ok root) : path ∈ store.saved d ↔
    ∃ rest node, rest ≠ [] ∧ (root ++ rest, node) ∈ d.nodes ∧
      endsWith (rest.getLastD "") UnitName.artifactExtension = true ∧ path = store.directory.extended rest := by
  rw [saved, h]
  simp only [List.mem_map, List.mem_mergeSort, List.mem_filterMap]
  constructor
  · rintro ⟨rest, ⟨⟨parts, node⟩, hmem, hrest⟩, rfl⟩
    dsimp only at hrest
    split at hrest
    · rename_i hends
      obtain rfl := Option.some.inj hrest
      obtain ⟨hne, hmem⟩ := Disk.mem_below.1 hmem
      exact ⟨parts, node, hne, hmem, hends, rfl⟩
    · cases hrest
  · rintro ⟨rest, node, hne, hmem, hends, rfl⟩
    exact ⟨rest, ⟨(rest, node), Disk.mem_below.2 ⟨hne, hmem⟩, if_pos hends⟩, rfl⟩

/-! ## What is kept -/

/-- The tree of a store that keeps artifacts: below its place there are these, under their names, and directories. -/
structure Shelved (store : DurableStore) (root : List String) (kept : List (String × Bytes)) (d : Disk) : Prop where
  lies : store.LiesIn d root
  null : Disk.hasNull store.directory = false
  unique : (d.nodes.map (·.1)).Nodup
  dotted : ∀ name data, lookupEntry name kept = some data → UnitName.IsDotted name
  file : ∀ name data, lookupEntry name kept = some data →
    d.locate (store.pathOf name) = .ok (root ++ UnitName.components name) ∧
      d.get? (root ++ UnitName.components name) = some (.file data)
  only : ∀ rest node, rest ≠ [] → d.get? (root ++ rest) = some node →
    (node = .directory ∧ ∀ c ∈ rest, Path.IsPart c) ∨
      ∃ name data, lookupEntry name kept = some data ∧ rest = UnitName.components name ∧ node = .file data

namespace Shelved

variable {kept : List (String × Bytes)}

/-- **A save** keeps one more artifact, in place of the one of the same name. -/
theorem save (h : store.Shelved root kept d) (hname : UnitName.IsDotted name)
    (hsave : store.save d name data = (e, none)) : store.Shelved root (setEntry name data kept) e := by
  have hgrown : Disk.Grown root d e := by
    have hsaved := save_grown h.lies (confines_of_isPlain root hname.isPlain) data
    rwa [hsave] at hsaved
  obtain ⟨hfile, hrest⟩ := save_get? h.lies hname hsave
  have hother {other : String} {old : Bytes} (hne : other ≠ name) (hold : lookupEntry other kept = some old) :
      root ++ UnitName.components other ≠ root ++ UnitName.components name := fun heq =>
    hne (((h.dotted other old hold).components_inj hname).1 (List.append_cancel_left heq))
  refine ⟨h.lies.grown hgrown, h.null, save_unique h.lies hname hsave h.unique, fun other old hold => ?_,
    fun other old hold => ?_, fun rest node hne hnode => ?_⟩
  · rw [lookupEntry_setEntry] at hold
    split at hold
    · rename_i heq
      exact heq ▸ hname
    · exact h.dotted other old hold
  · rw [lookupEntry_setEntry] at hold
    split at hold
    · rename_i heq
      subst heq
      obtain rfl := Option.some.inj hold
      obtain ⟨-, -, -, -, -, -, hlocate⟩ := save_tree h.lies hname hsave
      exact ⟨hlocate, hfile⟩
    · rename_i hdiffer
      obtain ⟨hlocate, hget⟩ := h.file other old hold
      refine ⟨hgrown.locate_eq_ok hlocate, ?_⟩
      rcases hrest _ (hother hdiffer hold) with hsame | ⟨hnot, -⟩ | ⟨hnone, -⟩
      · exact hsame.trans hget
      · exact absurd ⟨other, h.dotted other old hold, rfl⟩ hnot
      · cases hnone.symm.trans hget
  · by_cases heq : root ++ rest = root ++ UnitName.components name
    · obtain rfl := List.append_cancel_left heq
      refine .inr ⟨name, data, ?_, rfl, Option.some.inj (hnode.symm.trans hfile)⟩
      rw [lookupEntry_setEntry, if_pos rfl]
    · rcases hrest _ heq with hsame | ⟨-, hnone⟩ | ⟨-, hdirectory, above, habove, hplace⟩
      · refine (h.only rest node hne (hsame.symm.trans hnode)).imp_right ?_
        rintro ⟨other, old, hold, rfl, rfl⟩
        refine ⟨other, old, ?_, rfl, rfl⟩
        rw [lookupEntry_setEntry, if_neg fun hsame => heq (by rw [hsame])]
        exact hold
      · cases hnone.symm.trans hnode
      · obtain rfl := List.append_cancel_left hplace
        refine .inl ⟨(Option.some.inj (hdirectory.symm.trans hnode)).symm, fun c hc => ?_⟩
        exact hname.isPart_of_mem_dropLast c (habove.subset hc)

/-- The paths below the place of the store are those of artifacts and directories. -/
theorem up_notMem (h : store.Shelved root kept d) {rest : List String} {node : Node} (hne : rest ≠ [])
    (hmem : (root ++ rest, node) ∈ d.nodes) : ".." ∉ rest := by
  rcases h.only rest node hne (Disk.get?_of_mem h.unique (by simp [hne]) hmem) with
    ⟨-, hparts⟩ | ⟨name, data, -, rfl, -⟩
  · exact fun hup => (hparts _ hup).isComponent.ne_above rfl
  · exact UnitName.up_notMem_components name

/-- **A clearing** keeps nothing. -/
theorem clear (h : store.Shelved root kept d) (hclear : store.clear d = (e, none)) : store.Shelved root [] e := by
  have hpaths : ∀ path ∈ store.saved d, ∀ f place, Disk.Grown root d f → f.locate path = .ok place →
      root <+: place ∧ place ≠ [] := by
    intro path hpath f place hf hplace
    obtain ⟨rest, node, hne, hmem, -, rfl⟩ := (mem_saved h.lies.located).1 hpath
    rw [(h.lies.grown hf).target (.inl rfl) (h.up_notMem hne hmem) hplace]
    exact ⟨List.prefix_append root rest, by simp [hne]⟩
  obtain ⟨hgrown, hunique, hget, hgone⟩ := removeAll_eq_ok hpaths hclear
  refine ⟨h.lies.grown hgrown, h.null, hunique h.unique, nofun, nofun, fun rest node hne hnode => ?_⟩
  rcases hget (root ++ rest) with hsame | ⟨hnone, -⟩
  · rcases h.only rest node hne (hsame.symm.trans hnode) with hdirectory | ⟨name, data, hkept, rfl, rfl⟩
    · exact .inl hdirectory
    · -- the artifact is one of those that have been taken away
      obtain ⟨hlocate, hfile⟩ := h.file name data hkept
      have hsaved : store.pathOf name ∈ store.saved d := (mem_saved h.lies.located).2
        ⟨_, _, hne, Disk.mem_nodes_of_get? (by simp [hne]) hfile, (h.dotted name data hkept).endsWith_getLast,
          pathOf_eq (h.dotted name data hkept) store⟩
      cases (hgone _ hsaved _ hlocate).symm.trans hnode
  · cases hnone.symm.trans hnode

/-- **What is found** under a name is the artifact that is kept under it, if the name is not too long. -/
theorem get_eq (h : store.Shelved root kept d) (hname : UnitName.IsDotted name)
    (hlong : ¬ d.TooLong (store.pathOf name)) : store.get d name = .ok (lookupEntry name kept) := by
  have hcontent : (d.node? (store.pathOf name)).bind Disk.content? = lookupEntry name kept := by
    cases hkept : lookupEntry name kept with
    | some data =>
      obtain ⟨hlocate, hfile⟩ := h.file name data hkept
      have hnull : Disk.hasNull (store.pathOf name) = false := by
        rw [pathOf_eq hname]
        exact Disk.hasNull_extended h.null hname.isComponent
      rw [Disk.node?, hnull, hlocate]
      simp [hfile, Disk.content?]
    | none =>
      cases hnode : d.node? (store.pathOf name) with
      | none => rfl
      | some node =>
        obtain ⟨-, place, hplace, hget⟩ := Disk.node?_eq_some hnode
        obtain rfl := h.lies.target (.inl rfl) (UnitName.up_notMem_components name) (pathOf_eq hname store ▸ hplace)
        rcases h.only _ node (UnitName.components_ne_nil name) hget with ⟨rfl, -⟩ | ⟨other, data, hother, heq, rfl⟩
        · rfl
        · obtain rfl := (hname.components_inj (h.dotted other data hother)).1 heq
          cases hkept.symm.trans hother
  rw [get, Disk.find, Disk.look_of_not_tooLong hlong, ← hcontent]
  rfl

/-- A name that is too long cannot be looked up. -/
theorem get_of_tooLong (h : store.Shelved root kept d) (hname : UnitName.IsDotted name)
    (hlong : d.TooLong (store.pathOf name)) :
    store.get d name = .error (Refusal.nameTooLong.raised (store.pathOf name)) := by
  have hnull : Disk.hasNull (store.pathOf name) = false := by
    rw [pathOf_eq hname]
    exact Disk.hasNull_extended h.null hname.isComponent
  rw [get, Disk.find, Disk.look_of_tooLong hnull hlong]
  rfl

/-- What is kept is not too long. -/
theorem not_tooLong (h : store.Shelved root kept d) (hkept : lookupEntry name kept = some data) :
    ¬ d.TooLong (store.pathOf name) := by
  rw [Disk.TooLong, (h.file name data hkept).1]
  exact nofun

/-- The files below the place of the store are the artifacts that are kept. -/
theorem mem_filesBelow (h : store.Shelved root kept d) : parts ∈ d.filesBelow store.directory true ↔
    ∃ name, (lookupEntry name kept).isSome = true ∧ parts = UnitName.components name := by
  rw [Disk.mem_filesBelow h.lies.located]
  constructor
  · rintro ⟨hne, -, node, hnode, hmem⟩
    rcases h.only parts node hne (Disk.get?_of_mem h.unique (by simp [hne]) hmem) with
      ⟨rfl, -⟩ | ⟨name, data, hkept, rfl, -⟩
    · exact absurd rfl hnode
    · exact ⟨name, by rw [hkept]; rfl, rfl⟩
  · rintro ⟨name, hsome, rfl⟩
    obtain ⟨data, hkept⟩ := Option.isSome_iff_exists.1 hsome
    have hne := UnitName.components_ne_nil name
    exact ⟨hne, .inl rfl, .file data, by simp, Disk.mem_nodes_of_get? (by simp [hne]) (h.file name data hkept).2⟩

end Shelved

/-! ## Sequences of operations -/

/-- The operations that change what a store keeps. -/
inductive Change where
  | save (name : String) (data : Bytes)
  | clear
  deriving DecidableEq

namespace Change

/-- The tree after an operation, and the failure that ended it. -/
def apply (store : DurableStore) (d : Disk) : Change → Disk × Option Raised
  | save name data => store.save d name data
  | clear => store.clear d

/-- What is kept after an operation. -/
def keep (kept : List (String × Bytes)) : Change → List (String × Bytes)
  | save name data => setEntry name data kept
  | clear => []

/-- The data that an operation saves under a name. -/
def saved? (name : String) : Change → Option Bytes
  | save other data => if other = name then some data else none
  | clear => none

/-- An operation on a name made of parts, if on any. -/
def IsDotted : Change → Prop
  | save name _ => UnitName.IsDotted name
  | clear => True

end Change

/-- The tree after operations that succeed, one after the other. -/
def run? (store : DurableStore) (d : Disk) : List Change → Option Disk
  | [] => some d
  | change :: rest =>
    match change.apply store d with
    | (e, none) => store.run? e rest
    | (_, some _) => none

/-- The data of the last save under a name since the last clearing. -/
def lastSaved (name : String) (changes : List Change) : Option Bytes :=
  (changes.reverse.takeWhile (· ≠ .clear)).findSome? (Change.saved? name)

/-- What operations have kept is what was saved last under each name. -/
theorem lookupEntry_foldl_keep (name : String) (changes : List Change) :
    lookupEntry name (changes.foldl Change.keep []) = lastSaved name changes := by
  induction changes using List.reverseRecOn with
  | nil => rfl
  | append_singleton changes change ih =>
    rw [List.foldl_append, lastSaved, List.reverse_append]
    cases change with
    | clear => rfl
    | save other data =>
      show lookupEntry name (setEntry other data (changes.foldl Change.keep [])) =
        ((Change.save other data :: changes.reverse).takeWhile (· ≠ .clear)).findSome? (Change.saved? name)
      rw [lookupEntry_setEntry, ih, List.takeWhile_cons_of_pos (by simp), List.findSome?_cons, Change.saved?]
      by_cases hname : other = name
      · rw [if_pos hname.symm, if_pos hname]
      · rw [if_neg (Ne.symm hname), if_neg hname]
        rfl

/-- The place of a store at the start: there is a directory and nothing in it. -/
structure StartsEmpty (store : DurableStore) (root : List String) (d : Disk) : Prop where
  lies : store.LiesIn d root
  null : Disk.hasNull store.directory = false
  unique : (d.nodes.map (·.1)).Nodup
  empty : d.below root = []

theorem StartsEmpty.shelved (h : store.StartsEmpty root d) : store.Shelved root [] d where
  lies := h.lies
  null := h.null
  unique := h.unique
  dotted := nofun
  file := nofun
  only rest node hne hnode := by
    have hmem := Disk.mem_below.2 ⟨hne, Disk.mem_nodes_of_get? (by simp [hne]) hnode⟩
    rw [h.empty] at hmem
    cases hmem

/-- After operations that have succeeded there is what they have kept. -/
theorem Shelved.run {kept : List (String × Bytes)} {changes : List Change} (h : store.Shelved root kept d)
    (hnames : ∀ change ∈ changes, change.IsDotted) (hrun : store.run? d changes = some e) :
    store.Shelved root (changes.foldl Change.keep kept) e := by
  induction changes generalizing d kept with
  | nil =>
    cases hrun
    exact h
  | cons change rest ih =>
    rw [run?] at hrun
    split at hrun
    · rename_i f happly
      have hnext : store.Shelved root (change.keep kept) f := by
        cases change with
        | save name data => exact h.save (hnames _ List.mem_cons_self) happly
        | clear => exact h.clear happly
      exact ih hnext (fun other hother => hnames other (List.mem_cons_of_mem _ hother)) hrun
    · cases hrun

/-- **What a store returns after any sequence of successful saves and clearings**, at the start of which its directory
is empty: under each name what was saved last since the last clearing, and nothing if nothing was, exactly if the name
is not too long. Below the directory there is one file for each name under which something is saved, and no other. -/
theorem contents_iff {start : Disk} {changes : List Change} (hstart : store.StartsEmpty root start)
    (hnames : ∀ change ∈ changes, change.IsDotted) (hrun : store.run? start changes = some d) :
    (∀ name, UnitName.IsDotted name →
      (store.get d name = .ok (lastSaved name changes) ∧
        store.contains d name = .ok (lastSaved name changes).isSome ↔ ¬ d.TooLong (store.pathOf name)) ∧
      ((lastSaved name changes).isSome = true → ¬ d.TooLong (store.pathOf name))) ∧
    (∀ name other data e, UnitName.IsDotted name → UnitName.IsDotted other → other ≠ name →
      store.save d name data = (e, none) → ¬ d.TooLong (store.pathOf other) → ¬ e.TooLong (store.pathOf other) →
        store.get e other = store.get d other) ∧
    (d.filesBelow store.directory true).Nodup ∧
    (∀ parts, parts ∈ d.filesBelow store.directory true ↔
      ∃ name, UnitName.IsDotted name ∧ (lastSaved name changes).isSome = true ∧ parts = UnitName.components name) ∧
    ∀ name other, UnitName.IsDotted name → UnitName.IsDotted other →
      (UnitName.components name = UnitName.components other ↔ name = other) := by
  have h := hstart.shelved.run hnames hrun
  have hlast (name : String) := lookupEntry_foldl_keep name changes
  generalize changes.foldl Change.keep [] = kept at h hlast
  refine ⟨fun name hname => ⟨⟨fun ⟨hget, _⟩ hlong => ?_, fun hlong => ?_⟩, fun hsome => ?_⟩,
    fun name other data e hname hother hne hsave hlong hlong' => ?_,
    Disk.nodup_filesBelow h.unique h.lies.located true, fun parts => ?_,
    fun name other hname hother => hname.components_inj hother⟩
  · cases (h.get_of_tooLong hname hlong).symm.trans hget
  · have hget := h.get_eq hname hlong
    rw [hlast] at hget
    exact ⟨hget, by rw [contains, hget]; rfl⟩
  · obtain ⟨data, hkept⟩ := Option.isSome_iff_exists.1 hsome
    exact h.not_tooLong ((hlast name).trans hkept)
  · rw [(h.save hname hsave).get_eq hother hlong', h.get_eq hother hlong, lookupEntry_setEntry, if_neg hne]
  · rw [h.mem_filesBelow]
    refine exists_congr fun name => ?_
    rw [hlast]
    refine ⟨fun ⟨hsome, hparts⟩ => ?_, fun ⟨_, hsome, hparts⟩ => ⟨hsome, hparts⟩⟩
    obtain ⟨data, hkept⟩ := Option.isSome_iff_exists.1 hsome
    exact ⟨h.dotted name data ((hlast name).trans hkept), hsome, hparts⟩

/-! ### A few units -/

theorem inDirectory_startsEmpty : inDirectory.StartsEmpty ["store"] emptyDirectory where
  lies := inDirectory_liesIn
  null := by decide +kernel
  unique := by decide +kernel
  empty := by decide +kernel

/-- A unit and one in a package of its name are saved, and the first one again. -/
def savedTwice : List Change := [.save "p.A" [1], .save "p.A.B" [2], .save "p.A" [3]]

theorem savedTwice_dotted : ∀ change ∈ savedTwice, change.IsDotted := by
  have hA : UnitName.IsDotted "p.A" := ⟨["p", "A"], by decide, by decide, by decide +kernel⟩
  have hB : UnitName.IsDotted "p.A.B" := ⟨["p", "A", "B"], by decide, by decide, by decide +kernel⟩
  simp [savedTwice, Change.IsDotted, hA, hB]

/-- Both are found, the first one as it was saved last. -/
theorem savedTwice_contents : ∃ d, inDirectory.StartsEmpty ["store"] emptyDirectory ∧
    (∀ change ∈ savedTwice, change.IsDotted) ∧ inDirectory.run? emptyDirectory savedTwice = some d ∧
    inDirectory.get d "p.A" = .ok (some [3]) ∧ inDirectory.get d "p.A.B" = .ok (some [2]) := by
  have hsome : (inDirectory.run? emptyDirectory savedTwice).isSome = true := by decide +kernel
  obtain ⟨d, hrun⟩ := Option.isSome_iff_exists.1 hsome
  obtain ⟨hfound, -⟩ := contents_iff inDirectory_startsEmpty savedTwice_dotted hrun
  have hget (name : String) (hname : UnitName.IsDotted name) (hsaved : (lastSaved name savedTwice).isSome = true) :
      inDirectory.get d name = .ok (lastSaved name savedTwice) :=
    ((hfound name hname).1.2 ((hfound name hname).2 hsaved)).1
  exact ⟨d, inDirectory_startsEmpty, savedTwice_dotted, hrun,
    hget "p.A" ⟨["p", "A"], by decide, by decide, by decide +kernel⟩ (by decide +kernel),
    hget "p.A.B" ⟨["p", "A", "B"], by decide, by decide, by decide +kernel⟩ (by decide +kernel)⟩

/-- A name that makes a file name with one byte more than the file system allows. -/
def overlong : String := String.ofList (List.replicate 252 'n')

theorem isPart_overlong : Path.IsPart overlong := Path.isPart_replicate 251 (by decide) (by decide) (by decide)

theorem overlong_dotted : UnitName.IsDotted overlong :=
  ⟨[overlong], List.cons_ne_nil _ _, List.forall_mem_singleton.2 isPart_overlong, (Path.dotted_singleton overlong).symm⟩

theorem overlong_tooLong : emptyDirectory.TooLong (inDirectory.pathOf overlong) := by
  have hread := UnitName.IsDotted.ofString_toPath_dotted (List.forall_mem_nil _) isPart_overlong
  rw [List.nil_append, Path.dotted_singleton] at hread
  rw [pathOf, Path.append, hread]
  decide +kernel

/-- Nothing was saved, and a lookup fails instead of finding nothing. -/
theorem overlong_fails :
    inDirectory.StartsEmpty ["store"] emptyDirectory ∧ inDirectory.run? emptyDirectory [] = some emptyDirectory ∧
    UnitName.IsDotted overlong ∧ lastSaved overlong [] = none ∧
    inDirectory.get emptyDirectory overlong = .error (Refusal.nameTooLong.raised (inDirectory.pathOf overlong)) :=
  ⟨inDirectory_startsEmpty, rfl, overlong_dotted, rfl,
    inDirectory_startsEmpty.shelved.get_of_tooLong overlong_dotted overlong_tooLong⟩

end DurableStore

end UnitFoundry
