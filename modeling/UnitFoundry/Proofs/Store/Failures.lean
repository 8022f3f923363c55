import UnitFoundry.Proofs.Store.Contents

/-!
# Saves that fail

A save makes directories, writes a temporary file and puts it in the place of the artifact, and may fail at each of
these steps: for what stands in the tree, or because the system refuses a step for reasons of its own. Whatever it is,
no file of the tree is changed, lost or new, for the temporary one is taken away. What stays are directories that the
save has made.

These are no harm to what the store has, for a directory is no artifact. But they can make a difference to what it has
not: a name that is too long for a file goes unnoticed as long as the directory is missing that it would be looked for
in, and is refused as soon as this directory is there.

* `Disk.SameFiles` — trees with the same files, one of which may have more directories;
* `Disk.IsTree` — every node is in a directory;
* `SameFiles.find_eq_iff` — **when a path leads to the same content in trees with the same files**;
* `sameFiles_of_saveIn`, `failure_of_saveIn` — what a failed save leaves, and the failures with which it ends;
* `saveIn_failure` — **what is so after a failed save**, at whatever step and in whatever circumstances.
-/

namespace UnitFoundry

open Text

namespace Disk

variable {d e f : Disk} {p : Path} {here place parts : List String} {node : Node}

/-! ## Trees with the same files -/

/-- A tree to which nothing but directories has been added. -/
structure SameFiles (d e : Disk) : Prop extends Roomier (fun _ => True) d e where
  here : e.here = d.here

namespace SameFiles

theorem refl (d : Disk) : SameFiles d d := ⟨.refl _ d, rfl⟩

theorem trans (h : SameFiles d e) (h' : SameFiles e f) : SameFiles d f :=
  ⟨h.toRoomier.trans h'.toRoomier, h'.here.trans h.here⟩

theorem grown (h : SameFiles d e) : Grown [] d e where
  here := h.here
  outside := by simp
  directories place hplace := by
    rcases h.added place with hsame | ⟨hnone, -⟩
    · exact hsame.trans hplace
    · cases hnone.symm.trans hplace

/-- Only directories are where there was nothing. -/
theorem content_of_none (h : SameFiles d e) (hnone : d.get? place = none) : (e.get? place).bind content? = none := by
  rcases h.added place with hsame | ⟨-, hadded, -⟩
  · rw [hsame, hnone]
    rfl
  · rw [hadded]
    rfl

theorem content_eq (h : SameFiles d e) (place : List String) :
    (e.get? place).bind content? = (d.get? place).bind content? := by
  rcases h.added place with hsame | ⟨hnone, -⟩
  · rw [hsame]
  · rw [h.content_of_none hnone, hnone]
    rfl

end SameFiles

/-- A directory is made where there was nothing. -/
theorem sameFiles_of_makeDirectory (h : d.makeDirectory p = .ok e) : SameFiles d e := by
  obtain ⟨place, -, hnone, rfl⟩ := DurableStore.makeDirectory_eq_ok h
  refine ⟨.put trivial hnone, ?_⟩
  unfold put
  split <;> rfl

/-- **The making of directories** adds only these, whether it comes to its end or not. -/
theorem sameFiles_of_makeDirectories {refuses : Disk → Path → Option SystemFailure} {depth : Nat}
    {failed : Option Raised} (h : d.makeDirectoriesWithin refuses depth p = (e, failed)) : SameFiles d e := by
  induction depth generalizing p e failed with
  | zero =>
    rcases DurableStore.makeDirectories_cases h with ⟨rfl, -⟩ | ⟨hone, -⟩ | ⟨fewer, -, -, -, hdepth, -⟩
    · exact .refl e
    · exact sameFiles_of_makeDirectory hone
    · cases hdepth
  | succ depth ih =>
    rcases DurableStore.makeDirectories_cases h with ⟨rfl, -⟩ | ⟨hone, -⟩ |
      ⟨fewer, missing, made, above, hdepth, -, -, -, -, habove, hlast⟩
    · exact .refl e
    · exact sameFiles_of_makeDirectory hone
    · obtain rfl := Nat.succ.inj hdepth
      rcases hlast with ⟨rfl, -⟩ | ⟨-, hlast, -⟩
      · exact ih habove
      · exact (ih habove).trans (sameFiles_of_makeDirectory hlast)

/-- A file that has been written is there to be taken away. -/
theorem remove_of_write {data : Bytes} (h : d.write p data = .ok e) :
    ∃ place, place ≠ [] ∧ d.locate p = .ok place ∧ e = d.put place (.file data) ∧ e.remove p = .ok (e.delete place) := by
  obtain ⟨place, hlocate, hplain, rfl⟩ := DurableStore.write_eq_ok h
  have hne : place ≠ [] := by
    rintro rfl
    exact hplain rfl
  have hthere : (d.put place (.file data)).locate p = .ok place :=
    (Grown.put List.nil_prefix hne (.inr hplain)).locate_eq_ok hlocate
  refine ⟨place, hne, hlocate, rfl, ?_⟩
  rw [remove, hthere]
  dsimp only
  rw [get?_put hne]

/-- A file that is written where there was nothing, and taken away again. -/
theorem sameFiles_of_write {data : Bytes} (hfree : d.exists p = false) (hwrite : d.write p data = .ok e)
    (hremove : e.remove p = .ok f) : SameFiles d f := by
  have hnull : hasNull p = false := by
    by_contra hnull
    rw [write, if_pos (by simpa using hnull)] at hwrite
    cases hwrite
  obtain ⟨place, hne, hlocate, rfl, hcleaned⟩ := remove_of_write hwrite
  obtain rfl := Except.ok.inj (hcleaned.symm.trans hremove)
  have hnone : d.get? place = none := by
    rw [«exists», node?, hnull, if_neg Bool.false_ne_true, hlocate] at hfree
    simpa using hfree
  refine ⟨⟨fun hunique => unique_delete (unique_put hunique _ _) _, fun other => .inl ?_⟩, ?_⟩
  · by_cases heq : other = place
    · rw [heq, get?_delete hne, hnone]
    · rw [get?_delete_of_ne heq, get?_put_of_ne heq]
  · show (d.put place (.file data)).here = d.here
    unfold put
    split <;> rfl

/-! ## What is to be found -/

/-- Every node is in a directory. -/
def IsTree (d : Disk) : Prop := ∀ place part, (d.get? (place ++ [part])).isSome = true → d.get? place = some .directory

/-- It is enough to look at the nodes. -/
theorem isTree_of_nodes (h : ∀ n ∈ d.nodes, d.get? n.1.dropLast = some .directory) : d.IsTree := by
  intro place part hnode
  obtain ⟨node, hnode⟩ := Option.isSome_iff_exists.1 hnode
  have hplace := h _ (mem_nodes_of_get? (by simp) hnode)
  rwa [List.dropLast_concat] at hplace

/-- All that leads to a node are directories. -/
theorem IsTree.above (h : d.IsTree) {part : String} {rest : List String}
    (hnode : (d.get? (here ++ part :: rest)).isSome = true) : d.get? here = some .directory := by
  induction rest using List.reverseRecOn with
  | nil => exact h here part hnode
  | append_singleton rest last ih =>
    refine ih ?_
    rw [← List.cons_append, ← List.append_assoc] at hnode
    rw [h _ last hnode]
    rfl

/-- A walk down to a node comes to its end, unless some name is too long. -/
theorem IsTree.walk (h : d.IsTree) (hdown : ".." ∉ parts) (hnode : (d.get? (here ++ parts)).isSome = true) :
    d.walk here parts = .ok (here ++ parts) ∨ d.walk here parts = .error .nameTooLong := by
  induction parts generalizing here with
  | nil => exact .inl (by rw [Disk.walk, List.append_nil])
  | cons part parts ih =>
    simp only [List.mem_cons, not_or] at hdown
    rw [Disk.walk, h.above hnode]
    dsimp only
    split
    · exact .inr rfl
    · rw [if_neg (Ne.symm hdown.1), List.append_cons here part parts]
      exact ih hdown.2 (List.append_cons here part parts ▸ hnode)

/-- A walk that meets a name that is too long meets it again. -/
theorem Grown.walk_tooLong {root : List String} (h : Grown root d e)
    (hwalk : d.walk here parts = .error .nameTooLong) : e.walk here parts = .error .nameTooLong := by
  induction parts generalizing here with
  | nil => cases hwalk
  | cons part rest ih =>
    rw [walk] at hwalk ⊢
    split at hwalk
    · rename_i hdirectory
      rw [h.directories here hdirectory]
      dsimp only
      split at hwalk
      · rename_i hlong
        rw [if_pos hlong]
      · rename_i hshort
        rw [if_neg hshort]
        exact ih hwalk
    · cases hwalk
    · cases hwalk

theorem Grown.tooLong {root : List String} (h : Grown root d e) (hlong : d.TooLong p) : e.TooLong p := by
  unfold TooLong locate at *
  split
  · rfl
  · rename_i hshort
    rw [if_neg hshort] at hlong
    rw [h.here]
    exact h.walk_tooLong hlong

/-- A path that goes down only, from where a part of it leads. -/
def GoesDown (d : Disk) (p : Path) : Prop :=
  ∃ first rest root, p.parts = first ++ rest ∧ ".." ∉ rest ∧ d.walk (if p.isAbsolute then [] else d.here) first = .ok root

/-- Where a path leads only after directories have been added, there is no file. -/
theorem SameFiles.get?_of_locate (h : SameFiles d e) (htree : d.IsTree) (hdown : d.GoesDown p) (hlong : ¬ d.TooLong p)
    {r : Refusal} (hnowhere : d.locate p = .error r) (hlocate : e.locate p = .ok place) : d.get? place = none := by
  obtain ⟨first, rest, root, hparts, hrest, hroot⟩ := hdown
  have hwalk := locate_eq_ok hlocate
  rw [hparts, h.here, walk_append, h.grown.walk_eq_ok hroot] at hwalk
  obtain rfl := walk_eq_ok hrest hwalk
  cases hnode : d.get? (root ++ rest) with
  | none => rfl
  | some node =>
    have hd : d.locate p = d.walk root rest := by
      unfold locate at hlocate ⊢
      split at hlocate
      · cases hlocate
      · rename_i hshort
        rw [if_neg hshort, hparts, walk_append, hroot]
        rfl
    rcases htree.walk hrest (by rw [hnode]; rfl) with hok | herror
    · cases (hd.trans hok).symm.trans hnowhere
    · exact absurd (hd.trans herror) hlong

/-- **A path leads to the same content** in trees with the same files, unless it is too long in one of them only. -/
theorem SameFiles.find_eq_iff (h : SameFiles d e) (htree : d.IsTree) (hdown : d.GoesDown p) :
    e.find p = d.find p ↔ (e.TooLong p → hasNull p = true ∨ d.TooLong p) := by
  cases hnull : hasNull p with
  | true => simp [find, look, hnull]
  | false =>
    constructor
    · intro hsame hlong
      by_contra hshort
      simp only [Bool.false_eq_true, false_or] at hshort
      rw [find, find, look_of_tooLong hnull hlong, look_of_not_tooLong hshort] at hsame
      cases hsame
    · intro hboth
      by_cases hlong : e.TooLong p
      · have hlong' : d.TooLong p := (hboth hlong).resolve_left Bool.false_ne_true
        rw [find, find, look_of_tooLong hnull hlong, look_of_tooLong hnull hlong']
      have hshort : ¬ d.TooLong p := fun hlong' => hlong (h.grown.tooLong hlong')
      rw [find, find, look_of_not_tooLong hlong, look_of_not_tooLong hshort, Except.map, Except.map]
      congr 1
      simp only [node?, hnull, Bool.false_eq_true, if_false]
      cases hlocate : d.locate p with
      | ok place =>
        rw [h.grown.locate_eq_ok hlocate]
        exact h.content_eq place
      | error r =>
        cases hlocate' : e.locate p with
        | error r' => rfl
        | ok place => exact h.content_of_none (h.get?_of_locate htree hdown hshort hlocate hlocate')

end Disk

/-! ## A failed save -/

namespace DurableStore

variable {store : DurableStore} {c : Circumstances} {d e f : Disk} {name other : String} {data : Bytes} {why : Raised}

/-- What has been written of a temporary file is taken away, unless the system refuses that. -/
theorem remove_of_abandon {p : Path} {failed : Option Raised} (hremoval : c.removal = none)
    (hwrite : d.write p data = .ok e) (h : abandon c e p why = (f, failed)) : e.remove p = .ok f := by
  obtain ⟨place, -, -, -, hremove⟩ := Disk.remove_of_write hwrite
  rw [abandon, hremoval, hremove] at h
  cases h
  exact hremove

/-- A save whose directories cannot be made is at its end. -/
theorem saveIn_of_makeDirectories
    (h : d.makeDirectoriesWithin c.making c.nesting (store.pathOf name).parent = (e, some why)) :
    store.saveIn c d name data = (e, some why) := by
  rw [saveIn, h]

/-- **A failed save leaves the files as they were**, if it can take the temporary one away. -/
theorem sameFiles_of_saveIn (hremoval : c.removal = none) (h : store.saveIn c d name data = (e, some why)) :
    Disk.SameFiles d e := by
  rcases saveIn_cases h with ⟨-, hmake⟩ | ⟨made, fault, hmake, hreplace, hfault⟩
  · exact Disk.sameFiles_of_makeDirectories hmake
  have hmade := Disk.sameFiles_of_makeDirectories hmake
  obtain ⟨reason, rfl, -⟩ := Option.map_eq_some_iff.1 hfault.symm
  rcases replaceFile_cases hreplace with ⟨rfl, -⟩ | ⟨n, written, f, hfree, hwrite, ⟨reason', hgiven⟩ | ⟨-, -, hnone⟩⟩
  · exact hmade
  · exact hmade.trans (Disk.sameFiles_of_write hfree hwrite (remove_of_abandon hremoval hwrite hgiven))
  · cases hnone

/-- **A save fails with a failure of the system**, but for a unit in more packages than there is room for calls. -/
theorem failure_of_saveIn (hnull : Disk.hasNull (store.pathOf name) = false)
    (h : store.saveIn c d name data = (e, some why)) : isKind why.kind "OSError" = true ∨
      why = Disk.nestedTooDeep ∧ c.nesting < (store.pathOf name).parts.length ∧ e = d := by
  rcases saveIn_cases h with ⟨-, hmake⟩ | ⟨made, fault, -, -, hfault⟩
  · refine (failure_of_makeDirectories hmake).imp_right fun ⟨hsame, hcase⟩ => ?_
    rcases hcase with ⟨-, hnull'⟩ | ⟨rfl, hdeep⟩
    · rw [hasNull_parent hnull] at hnull'
      cases hnull'
    · refine ⟨rfl, hdeep.trans_le ?_, hsame⟩
      rw [Path.parent, List.length_dropLast]
      exact Nat.sub_le _ _
  · obtain ⟨reason, -, rfl⟩ := Option.map_eq_some_iff.1 hfault.symm
    exact .inl (by decide +kernel : isKind "OSError" "OSError" = true)

/-! ## What a failed save means for what the store has -/

/-- The paths of artifacts go down from the directory of the store, wherever that is. -/
def IsPlaced (store : DurableStore) (d : Disk) : Prop :=
  ".." ∉ store.directory.parts ∨ ∃ root, d.locate store.directory = .ok root

theorem goesDown_pathOf (h : store.IsPlaced d) (name : String) : d.GoesDown (store.pathOf name) := by
  have hup := UnitName.up_notMem_components name
  rw [UnitName.components] at hup
  rw [pathOf, Path.append, Path.join]
  split
  · exact ⟨[], _, _, (List.nil_append _).symm, hup, rfl⟩
  · rcases h with hdown | ⟨root, hroot⟩
    · exact ⟨[], _, _, (List.nil_append _).symm, by simp [hdown, hup], rfl⟩
    · exact ⟨store.directory.parts, _, root, rfl, hup, Disk.locate_eq_ok hroot⟩

theorem hasNull_pathOf (hdirectory : Disk.hasNull store.directory = false) (hname : '\x00' ∉ name.toList) :
    Disk.hasNull (store.pathOf name) = false := by
  have hcomponents : ∀ part ∈ (Path.ofString (UnitName.toPath name UnitName.artifactExtension)).parts,
      '\x00' ∉ part.toList := by
    intro part hpart hnull
    obtain ⟨piece, hpiece, rfl⟩ := List.mem_map.1 (Path.mem_parts_ofString.1 hpart).1
    have hmem := (sublist_of_mem_splitOn hpiece).mem (by simpa using hnull)
    rw [UnitName.toList_toPath, List.mem_append, replaceChar, List.mem_map] at hmem
    rcases hmem with ⟨b, hb, hreplaced⟩ | hextension
    · split at hreplaced
      · cases hreplaced
      · exact hname (hreplaced ▸ hb)
    · revert hextension
      decide
  rw [Disk.hasNull, List.any_eq_false] at hdirectory ⊢
  intro part hpart
  rw [pathOf, Path.append, Path.join] at hpart
  split at hpart
  · simpa using hcomponents part hpart
  · rcases List.mem_append.1 hpart with hmem | hmem
    · exact hdirectory part hmem
    · simpa using hcomponents part hmem

/-- **After a failed save**, at whatever step and in whatever circumstances as long as the temporary file can be taken
away: the failure is one of the system, unless more directories are missing than there is room for calls; nothing but
directories is new in the tree; and a unit is found as before, and said to be saved as before, exactly if its path is
not too long to be looked up now while it was not before the save. -/
theorem saveIn_failure (hdirectory : Disk.hasNull store.directory = false) (hname : '\x00' ∉ name.toList)
    (hremoval : c.removal = none) (h : store.saveIn c d name data = (e, some why)) :
    (isKind why.kind "OSError" = true ∨
      why = Disk.nestedTooDeep ∧ c.nesting < (store.pathOf name).parts.length ∧ e = d) ∧
    (∀ place, e.get? place = d.get? place ∨ d.get? place = none ∧ e.get? place = some .directory) ∧
    (d.IsTree → store.IsPlaced d → ∀ other,
      (store.get e other = store.get d other ∧ store.contains e other = store.contains d other) ↔
        (e.TooLong (store.pathOf other) → Disk.hasNull (store.pathOf other) = true ∨ d.TooLong (store.pathOf other))) := by
  have hsame := sameFiles_of_saveIn hremoval h
  refine ⟨failure_of_saveIn (hasNull_pathOf hdirectory hname) h, fun place => ?_, fun htree hplaced other => ?_⟩
  · exact (hsame.added place).imp_right fun ⟨hnone, hadded, _⟩ => ⟨hnone, hadded⟩
  · rw [← hsame.find_eq_iff htree (goesDown_pathOf hplaced other)]
    refine ⟨fun hboth => hboth.1, fun hfind => ⟨hfind, ?_⟩⟩
    rw [contains, contains, get, get, hfind]

theorem get_of_tooLong (hnull : Disk.hasNull (store.pathOf name) = false) (hlong : d.TooLong (store.pathOf name)) :
    store.get d name = .error (Refusal.nameTooLong.raised (store.pathOf name)) := by
  rw [get, Disk.find, Disk.look_of_tooLong hnull hlong]
  rfl

theorem tryDirectory_of_locate {p : Path} {r : Refusal} (h : d.locate p = .error r) :
    d.tryDirectory (fun _ _ => none) p = .error (r.raised p) := by
  show (d.makeDirectory p).mapError (·.raised p) = _
  rw [Disk.makeDirectory, h]
  rfl

/-- The directories above a name that is too long are made, and stay. -/
theorem makeDirectories_of_tooLong {p : Path} {made : Disk} {depth : Nat} (hnull : Disk.hasNull p = false)
    (hparts : p.parts ≠ []) (hmissing : d.locate p = .error .noEntry)
    (habove : d.makeDirectoriesWithin (fun _ _ => none) depth p.parent = (made, none)) (hlong : made.TooLong p) :
    d.makeDirectoriesWithin (fun _ _ => none) (depth + 1) p = (made, some (Refusal.nameTooLong.raised p)) := by
  have hnot : made.isDirectory p = false := by
    rw [Disk.isDirectory, Disk.node?, hnull, if_neg Bool.false_ne_true, show made.locate p = .error .nameTooLong from hlong]
  rw [Disk.makeDirectoriesWithin, hnull, if_neg Bool.false_ne_true, tryDirectory_of_locate hmissing]
  dsimp only
  rw [if_neg (by simp [isMissing_raised]), if_neg (by simpa using hparts), habove]
  dsimp only
  rw [tryDirectory_of_locate hlong]
  dsimp only
  rw [if_neg (by simp [isMissing_raised]), Disk.settleDirectory, hnot]
  rfl

/-! ### Two failures -/

theorem emptyDirectory_isTree : emptyDirectory.IsTree := Disk.isTree_of_nodes (by decide +kernel)

theorem inDirectory_isPlaced (d : Disk) : inDirectory.IsPlaced d := .inl (by decide)

/-- A system that does not let a file take the place of another one. -/
def locked : Circumstances where
  replacement := some ⟨{ kind := "PermissionError", message := "[Errno 13] Permission denied" }, by decide +kernel⟩

/-- A unit is saved that cannot be put where it belongs, and is not there afterwards. -/
theorem locked_fails : ∃ e why, Disk.hasNull inDirectory.directory = false ∧ '\x00' ∉ "p.A".toList ∧
    locked.removal = none ∧ inDirectory.saveIn locked emptyDirectory "p.A" [1] = (e, some why) ∧
    (∀ place, e.get? place = emptyDirectory.get? place ∨
      emptyDirectory.get? place = none ∧ e.get? place = some .directory) ∧
    inDirectory.get e "p.A" = inDirectory.get emptyDirectory "p.A" := by
  obtain ⟨⟨e, failed⟩, hsave⟩ : ∃ result, inDirectory.saveIn locked emptyDirectory "p.A" [1] = result := ⟨_, rfl⟩
  have hfailed : (inDirectory.saveIn locked emptyDirectory "p.A" [1]).2.isSome = true := by decide +kernel
  have hshort : ¬ (inDirectory.saveIn locked emptyDirectory "p.A" [1]).1.TooLong (inDirectory.pathOf "p.A") := by
    decide +kernel
  rw [hsave] at hfailed hshort
  obtain ⟨why, rfl⟩ := Option.isSome_iff_exists.1 hfailed
  obtain ⟨-, hfiles, hanswers⟩ := saveIn_failure (by decide) (by decide) rfl hsave
  refine ⟨e, why, by decide, by decide, rfl, hsave, hfiles, ?_⟩
  exact ((hanswers emptyDirectory_isTree (inDirectory_isPlaced _) "p.A").2 (absurd · hshort)).1

/-- A part of a name with one byte more than the file system allows. -/
def longPart : String := String.ofList (List.replicate 256 'n')

theorem isPart_longPart : Path.IsPart longPart := Path.isPart_replicate 255 (by decide) (by decide) (by decide)

/-- The name of a unit in a package of this name. -/
def deepName : String := Path.dotted ["a", longPart, "x"]

theorem pathOf_deepName : inDirectory.pathOf deepName = ⟨1, ["store", "a", longPart, "x.pyc"]⟩ := by
  have hpackage : ∀ c ∈ ["a", longPart], Path.IsPart c := by
    simp only [List.forall_mem_cons, isPart_longPart]
    decide
  have hread := UnitName.IsDotted.ofString_toPath_dotted hpackage (by decide : Path.IsPart "x")
  rw [deepName, pathOf, Path.append, show ["a", longPart, "x"] = ["a", longPart] ++ ["x"] from rfl, hread]
  rfl

theorem hasNull_deepName : Disk.hasNull (inDirectory.pathOf deepName) = false := by
  rw [pathOf_deepName, Disk.hasNull, List.any_eq_false]
  simp only [List.forall_mem_cons, List.contains_iff_mem, isPart_longPart.null, not_false_iff, true_and]
  decide

/-- A save under this name fails, and makes the directory above the name that is too long. -/
theorem deepName_fails : ∃ e why, inDirectory.save emptyDirectory deepName [1] = (e, some why) ∧
    e.TooLong (inDirectory.pathOf deepName) := by
  have hnull := hasNull_parent hasNull_deepName
  rw [pathOf_deepName] at hnull
  have hdone : (emptyDirectory.makeDirectoriesWithin (fun _ _ => none) 979 ⟨1, ["store", "a"]⟩).2 = none := by
    decide +kernel
  have hparent : (emptyDirectory.makeDirectoriesWithin (fun _ _ => none) 979 ⟨1, ["store", "a"]⟩).1.TooLong
      ⟨1, ["store", "a", longPart]⟩ := by decide +kernel
  obtain ⟨⟨e, failed⟩, hmade⟩ : ∃ result,
    emptyDirectory.makeDirectoriesWithin (fun _ _ => none) 979 ⟨1, ["store", "a"]⟩ = result := ⟨_, rfl⟩
  rw [hmade] at hdone hparent
  obtain rfl : failed = none := hdone
  have hmake := makeDirectories_of_tooLong hnull (List.cons_ne_nil _ _) (by decide +kernel) hmade hparent
  refine ⟨e, _, saveIn_of_makeDirectories (c := {}) (by rw [pathOf_deepName]; exact hmake), ?_⟩
  have habove : e.TooLong (inDirectory.directory.extended ["a", longPart]) := hparent
  rw [pathOf_deepName]
  exact habove.append ["x.pyc"]

/-- In the empty directory nothing is found under it. -/
theorem deepName_unnoticed : inDirectory.get emptyDirectory deepName = .ok none := by
  have hnowhere : emptyDirectory.locate ⟨1, ["store", "a", longPart, "x.pyc"]⟩ = .error .noEntry := by decide +kernel
  rw [get, Disk.find, Disk.look, hasNull_deepName, if_neg Bool.false_ne_true, pathOf_deepName, hnowhere]
  rfl

/-- A failed save turns the answer that nothing is there into a failure. -/
theorem deepName_hidden : emptyDirectory.IsTree ∧ Disk.hasNull (inDirectory.pathOf deepName) = false ∧
    inDirectory.get emptyDirectory deepName = .ok none ∧
    ∃ e why, inDirectory.save emptyDirectory deepName [1] = (e, some why) ∧
      inDirectory.get e deepName = .error (Refusal.nameTooLong.raised (inDirectory.pathOf deepName)) := by
  obtain ⟨e, why, hsave, hlong⟩ := deepName_fails
  exact ⟨emptyDirectory_isTree, hasNull_deepName, deepName_unnoticed, e, why, hsave,
    get_of_tooLong hasNull_deepName hlong⟩

end DurableStore

end UnitFoundry
