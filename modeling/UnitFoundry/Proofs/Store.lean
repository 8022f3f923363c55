import UnitFoundry.Proofs.Disk.Regions
import UnitFoundry.Proofs.UnitPath
import UnitFoundry.Store

/-!
# What saves change

A durable store makes directories and files below its own directory, for the names of units are read as paths from
there. This is so for every name that does not begin with a dot or a slash: such a name would be read as a path from
the root.

* `UnitName.IsPlain` — the names that are read as paths from a directory;
* `DurableStore.LiesIn` — the place where a store keeps its files;
* `DurableStore.Confines` — the names whose artifacts are beneath this place;
* `save_grown` — **a save changes nothing elsewhere**, whether it succeeds or not;
* `isOrdinary_of_save` — a save that fails does so with a failure that can be handled.
-/

namespace UnitFoundry

open Text

/-! ## Names of units as paths -/

/-- A name that begins neither with a dot nor with a slash. -/
def UnitName.IsPlain (name : String) : Prop := name.toList.head? ≠ some '.' ∧ name.toList.head? ≠ some '/'

instance (name : String) : Decidable (UnitName.IsPlain name) := instDecidableAnd

namespace UnitName

variable {name : String}

theorem dot_notMem_replaceChar (s : List Char) : '.' ∉ replaceChar '.' '/' s := by
  rw [replaceChar, List.mem_map]
  rintro ⟨c, -, hc⟩
  split at hc
  · cases hc
  · exact absurd hc ‹_›

/-- A name is read as a path from the root exactly if it begins with a dot or a slash. -/
theorem head?_replaceChar : (replaceChar '.' '/' name.toList).head? ≠ some '/' ↔ IsPlain name := by
  rw [replaceChar, List.head?_map, IsPlain]
  cases name.toList.head? with
  | none => simp
  | some c => by_cases hc : c = '.' <;> simp [hc]

theorem slashes_toPath : (Path.ofString (toPath name artifactExtension)).slashes = 0 ↔ IsPlain name := by
  rw [Path.slashes_ofString_eq_zero, ← head?_replaceChar, toList_toPath, List.head?_append]
  cases (replaceChar '.' '/' name.toList).head? with
  | none => simp [artifactExtension]
  | some c => simp

/-- The components of the path of an artifact. -/
@[irreducible]
def components (name : String) : List String := (Path.ofString (toPath name artifactExtension)).parts

theorem ofString_toPath (h : IsPlain name) : Path.ofString (toPath name artifactExtension) = ⟨0, components name⟩ := by
  rw [← slashes_toPath.2 h, components]

theorem slash_notMem_of_mem_components {c : String} (h : c ∈ components name) : '/' ∉ c.toList := by
  rw [components] at h
  exact Path.slash_notMem_of_mem_parts h

/-- Some component ends the path, for there is a letter in it. -/
theorem components_ne_nil (name : String) : components name ≠ [] := by
  have hletter : 'p' ∈ (toPath name artifactExtension).toList := by
    rw [toList_toPath]
    exact List.mem_append_right _ (by decide)
  obtain ⟨piece, hpiece, hmem⟩ := exists_mem_splitOn hletter (by decide : 'p' ≠ '/')
  rw [components]
  refine List.ne_nil_of_mem (Path.mem_parts_ofString.2 ⟨List.mem_map_of_mem hpiece, ?_, ?_⟩)
  all_goals
    intro heq
    rw [← String.toList_inj, String.toList_ofList] at heq
    rw [heq] at hmem
    revert hmem
    decide

/-- There are no steps up, for there is one dot in the path only. -/
theorem up_notMem_components (name : String) : ".." ∉ components name := by
  intro hup
  rw [components] at hup
  obtain ⟨piece, hpiece, heq⟩ := List.mem_map.1 (Path.mem_parts_ofString.1 hup).1
  rw [← String.toList_inj, String.toList_ofList] at heq
  have hcount := (sublist_of_mem_splitOn hpiece).count_le '.'
  rw [heq, toList_toPath, List.count_append, List.count_eq_zero_of_not_mem (dot_notMem_replaceChar _)] at hcount
  revert hcount
  decide

end UnitName

/-! ## Paths without steps up -/

namespace Path

variable {p : Path} {parts : List String}

/-- The place that a component leads to from another place. -/
def step (kept : List String) (part : String) : List String := if part = ".." then kept.dropLast else kept ++ [part]

theorem collapse_eq (p : Path) : p.collapse = ⟨p.slashes, p.parts.foldl step []⟩ := rfl

theorem foldl_step (hdown : ".." ∉ parts) (kept : List String) : parts.foldl step kept = kept ++ parts := by
  induction parts generalizing kept with
  | nil => simp
  | cons part rest ih =>
    simp only [List.mem_cons, not_or] at hdown
    rw [List.foldl_cons, step, if_neg (Ne.symm hdown.1), ih hdown.2, List.append_assoc]
    rfl

theorem up_notMem_foldl_step {kept : List String} (hkept : ".." ∉ kept) : ".." ∉ parts.foldl step kept := by
  induction parts generalizing kept with
  | nil => exact hkept
  | cons part rest ih =>
    refine ih ?_
    unfold step
    split
    · exact fun hmem => hkept (List.mem_of_mem_dropLast hmem)
    · rename_i hpart
      simpa [hkept] using Ne.symm hpart

end Path

/-- A walk comes to where its components lead. -/
theorem Disk.foldl_step_of_walk {d : Disk} {here parts place : List String} (h : d.walk here parts = .ok place) :
    parts.foldl Path.step here = place := by
  induction parts generalizing here with
  | nil =>
    cases h
    rfl
  | cons part rest ih =>
    rw [Disk.walk] at h
    split at h
    · split at h
      · cases h
      · exact ih h
    · cases h
    · cases h

/-! ## Saves -/

namespace DurableStore

variable {store : DurableStore} {d e : Disk} {b : Path} {root place parts : List String} {name : String} {data : Bytes}

/-- The files of a store are kept below a place of the tree, which is there with all directories above it. -/
structure LiesIn (store : DurableStore) (d : Disk) (root : List String) : Prop where
  located : d.locate store.directory = .ok root
  above : ∀ place, place <+: root → d.get? place = some .directory
  settled : ".." ∉ d.here

/-- A path by which the directory of a store goes: its own or an absolute one. -/
def IsBase (store : DurableStore) (root : List String) (b : Path) : Prop :=
  b = store.directory ∨ b.isAbsolute = true ∧ b.parts = root

namespace LiesIn

theorem grown (h : store.LiesIn d root) (hgrown : Disk.Grown root d e) : store.LiesIn e root :=
  ⟨hgrown.locate_eq_ok h.located, fun place hplace => hgrown.directories place (h.above place hplace),
    hgrown.here ▸ h.settled⟩

/-- Steps up are taken on the way to the directory. -/
theorem foldl_step (h : store.LiesIn d root) :
    (if store.directory.isAbsolute then [] else d.here).foldl Path.step [] =
        (if store.directory.isAbsolute then [] else d.here) ∧
      store.directory.parts.foldl Path.step (if store.directory.isAbsolute then [] else d.here) = root := by
  refine ⟨?_, Disk.foldl_step_of_walk (Disk.locate_eq_ok h.located)⟩
  split
  · rfl
  · exact Path.foldl_step h.settled []

theorem up_notMem (h : store.LiesIn d root) : ".." ∉ root := by
  rw [← h.foldl_step.2, ← h.foldl_step.1, ← List.foldl_append]
  exact Path.up_notMem_foldl_step List.not_mem_nil

/-- What is put below the directory. -/
theorem target (h : store.LiesIn d root) (hb : store.IsBase root b) (hdown : ".." ∉ parts)
    (hlocate : d.locate (b.extended parts) = .ok place) : place = root ++ parts := by
  rcases hb with rfl | ⟨habsolute, rfl⟩
  · exact (Disk.locate_extended_eq_ok h.located hdown hlocate).2
  · exact Disk.eq_of_locate (p := b.extended parts) habsolute (by simp [Path.extended, h.up_notMem, hdown]) hlocate

/-- The absolute paths below the directory. -/
theorem absolute_eq (h : store.LiesIn d root) (hb : store.IsBase root b) (hdown : ".." ∉ parts) :
    (d.absolute (b.extended parts)).isAbsolute = true ∧ (d.absolute (b.extended parts)).parts = root ++ parts := by
  rcases hb with rfl | ⟨habsolute, rfl⟩
  · obtain ⟨hstart, hend⟩ := h.foldl_step
    rw [Disk.absolute]
    by_cases habsolute : store.directory.isAbsolute = true
    · rw [if_pos habsolute] at hend
      refine ⟨by rwa [if_pos (show (store.directory.extended parts).isAbsolute = true from habsolute)], ?_⟩
      rw [if_pos (show (store.directory.extended parts).isAbsolute = true from habsolute), Path.collapse_eq]
      show (store.directory.parts ++ parts).foldl Path.step [] = _
      rw [List.foldl_append, hend, Path.foldl_step hdown]
    · rw [if_neg habsolute] at hstart hend
      rw [if_neg (show ¬ (store.directory.extended parts).isAbsolute = true from habsolute)]
      refine ⟨rfl, ?_⟩
      show (d.here ++ (store.directory.parts ++ parts)).foldl Path.step [] = _
      rw [List.foldl_append, hstart, List.foldl_append, hend, Path.foldl_step hdown]
  · rw [Disk.absolute, if_pos (show (b.extended parts).isAbsolute = true from habsolute), Path.collapse_eq]
    refine ⟨habsolute, ?_⟩
    show (b.parts ++ parts).foldl Path.step [] = _
    rw [List.foldl_append, Path.foldl_step h.up_notMem, Path.foldl_step hdown]
    rfl

/-- What is put below the directory by an absolute path. -/
theorem target_absolute (h : store.LiesIn d root) (hb : store.IsBase root b) (hdown : ".." ∉ parts)
    (hlocate : d.locate (d.absolute (b.extended parts)) = .ok place) : place = root ++ parts := by
  obtain ⟨habsolute, hparts⟩ := h.absolute_eq hb hdown
  rw [← hparts]
  refine Disk.eq_of_locate habsolute ?_ hlocate
  rw [hparts]
  simp [h.up_notMem, hdown]

/-- The directory itself is not made. -/
theorem makeDirectory_ne (h : store.LiesIn d root) (hb : store.IsBase root b) :
    d.makeDirectory b ≠ .error .noEntry := by
  have hlocate : d.locate b = .ok root ∨ d.locate b = .error .nameTooLong := by
    rcases hb with rfl | ⟨habsolute, rfl⟩
    · exact .inl h.located
    · rw [Disk.locate, if_pos habsolute]
      split
      · exact .inr rfl
      · exact Disk.walk_of_directories h.up_notMem (List.nil_append b.parts ▸ h.above)
  intro hmake
  unfold Disk.makeDirectory at hmake
  rcases hlocate with hlocate | hlocate
  · rw [hlocate] at hmake
    dsimp only [bind, Except.bind] at hmake
    rw [h.above root (List.prefix_refl root)] at hmake
    cases hmake
  · rw [hlocate] at hmake
    cases hmake

end LiesIn

/-- A directory is made where its path leads, if nothing is there. -/
theorem makeDirectory_eq_ok {p : Path} (h : d.makeDirectory p = .ok e) :
    ∃ place, d.locate p = .ok place ∧ d.get? place = none ∧ e = d.put place .directory := by
  unfold Disk.makeDirectory at h
  cases hlocate : d.locate p with
  | error r =>
    rw [hlocate] at h
    cases h
  | ok place =>
    rw [hlocate] at h
    dsimp only [bind, Except.bind] at h
    split at h
    · cases h
    · rename_i hnone
      cases h
      exact ⟨place, rfl, hnone, rfl⟩

theorem makeDirectory_grown (h : store.LiesIn d root) (hb : store.IsBase root b) (hdown : ".." ∉ parts)
    (hmake : d.makeDirectory (b.extended parts) = .ok e) : Disk.Grown root d e := by
  obtain ⟨place, hlocate, hnone, rfl⟩ := makeDirectory_eq_ok hmake
  obtain rfl := h.target hb hdown hlocate
  refine .put (List.prefix_append root parts) (fun hnil => ?_) (.inl rfl)
  rw [hnil] at hnone
  cases hnone

/-- A directory is made as the tree allows it, where the system refuses nothing else. -/
theorem tryDirectory_eq_ok {refuses : Disk → Path → Option SystemFailure} {p : Path}
    (h : d.tryDirectory refuses p = .ok e) : d.makeDirectory p = .ok e := by
  unfold Disk.tryDirectory at h
  split at h
  · cases h
  · cases hmake : d.makeDirectory p with
    | ok made =>
      rw [hmake] at h
      cases h
      rfl
    | error r =>
      rw [hmake] at h
      cases h

/-- Of the reasons of the system one says that there is no place for a directory. -/
theorem isMissing_raised (r : Refusal) (p : Path) (q : Option Path) :
    Disk.isMissing (r.raised p q) = decide (r = .noEntry) := by
  cases r <;> rfl

/-- There is no place for a directory exactly if there is none in the tree, where the system refuses nothing else. -/
theorem noEntry_of_isMissing {p : Path} {why : Raised} (h : d.tryDirectory (fun _ _ => none) p = .error why)
    (hmissing : Disk.isMissing why = true) : d.makeDirectory p = .error .noEntry := by
  change (d.makeDirectory p).mapError (·.raised p) = _ at h
  cases hmake : d.makeDirectory p with
  | ok made =>
    rw [hmake] at h
    cases h
  | error r =>
    rw [hmake] at h
    cases h
    rw [isMissing_raised, decide_eq_true_eq] at hmissing
    rw [hmissing]

/-- A directory that has to be there by now is missing for the reason for which it could not be made. -/
theorem settleDirectory_eq_some {p : Path} {why other : Raised} {failed : Option Raised}
    (h : d.settleDirectory p why = (e, failed)) (hfailed : failed = some other) : why = other := by
  unfold Disk.settleDirectory at h
  obtain rfl := congrArg Prod.snd h
  dsimp only at hfailed
  split at hfailed
  · cases hfailed
  · exact Option.some.inj hfailed

/-- **The ways in which directories are made**: none is, or that of the path is, or those above it are made first. -/
theorem makeDirectories_cases {refuses : Disk → Path → Option SystemFailure} {p : Path} {depth : Nat}
    {failed : Option Raised} (h : d.makeDirectoriesWithin refuses depth p = (e, failed)) :
    (e = d ∧ ∀ why, failed = some why → why = embeddedNull ∧ Disk.hasNull p = true ∨
        why = Disk.nestedTooDeep ∧ depth = 0 ∧ p.parts ≠ [] ∨ d.tryDirectory refuses p = .error why) ∨
      (d.makeDirectory p = .ok e ∧ failed = none) ∨
      ∃ fewer missing made above, depth = fewer + 1 ∧ p.parts ≠ [] ∧ Disk.hasNull p = false ∧
        d.tryDirectory refuses p = .error missing ∧ Disk.isMissing missing = true ∧
        d.makeDirectoriesWithin refuses fewer p.parent = (made, above) ∧
        (e = made ∧ (∀ why, failed = some why → above = some why ∨ made.tryDirectory refuses p = .error why) ∨
          above = none ∧ made.makeDirectory p = .ok e ∧ failed = none) := by
  unfold Disk.makeDirectoriesWithin at h
  split at h
  · rename_i hnull
    cases h
    exact .inl ⟨rfl, fun why hwhy => .inl ⟨(Option.some.inj hwhy).symm, hnull⟩⟩
  rename_i hnull
  split at h
  · rename_i made htry
    cases h
    exact .inr (.inl ⟨tryDirectory_eq_ok htry, rfl⟩)
  rename_i missing htry
  split at h
  · refine .inl ⟨(congrArg Prod.fst h).symm, fun why hwhy => .inr (.inr ?_)⟩
    rw [htry, settleDirectory_eq_some h hwhy]
  rename_i hmissing
  split at h
  · cases h
    exact .inl ⟨rfl, fun why hwhy => .inr (.inr (Option.some.inj hwhy ▸ htry))⟩
  rename_i hparts
  have hne : p.parts ≠ [] := by simpa using hparts
  cases depth with
  | zero =>
    cases h
    exact .inl ⟨rfl, fun why hwhy => .inr (.inl ⟨(Option.some.inj hwhy).symm, rfl, hne⟩)⟩
  | succ fewer =>
    dsimp only at h
    obtain ⟨⟨made, above⟩, habove⟩ : ∃ result, d.makeDirectoriesWithin refuses fewer p.parent = result := ⟨_, rfl⟩
    rw [habove] at h
    refine .inr (.inr ⟨fewer, missing, made, above, rfl, hne, by simpa using hnull, htry, by simpa using hmissing,
      habove, ?_⟩)
    cases above with
    | some why =>
      cases h
      exact .inl ⟨rfl, fun why hwhy => .inl hwhy⟩
    | none =>
      dsimp only at h
      split at h
      · rename_i last hlast
        cases h
        exact .inr ⟨rfl, tryDirectory_eq_ok hlast, rfl⟩
      · rename_i last hlast
        split at h
        · cases h
          exact .inl ⟨rfl, fun why hwhy => .inr (Option.some.inj hwhy ▸ hlast)⟩
        · refine .inl ⟨(congrArg Prod.fst h).symm, fun why hwhy => .inr ?_⟩
          rw [hlast, settleDirectory_eq_some h hwhy]

theorem parent_extended (hne : parts ≠ []) (p : Path) : (p.extended parts).parent = p.extended parts.dropLast := by
  rw [Path.parent, Path.extended, Path.extended, List.dropLast_append_of_ne_nil hne]

/-- Making directories below a directory. -/
theorem makeDirectories_grown (h : store.LiesIn d root) (hb : store.IsBase root b) (hdown : ".." ∉ parts) {depth : Nat}
    {failed : Option Raised}
    (hmake : d.makeDirectoriesWithin (fun _ _ => none) depth (b.extended parts) = (e, failed)) :
    Disk.Grown root d e := by
  induction depth generalizing parts e failed with
  | zero =>
    rcases makeDirectories_cases hmake with ⟨rfl, -⟩ | ⟨hone, -⟩ | ⟨fewer, -, -, -, hdepth, -⟩
    · exact .refl root _
    · exact makeDirectory_grown h hb hdown hone
    · cases hdepth
  | succ depth ih =>
    rcases makeDirectories_cases hmake with ⟨rfl, -⟩ | ⟨hone, -⟩ |
      ⟨fewer, missing, made, above, hdepth, -, -, htry, hmissing, habove, hlast⟩
    · exact .refl root _
    · exact makeDirectory_grown h hb hdown hone
    · obtain rfl := Nat.succ.inj hdepth
      have hne : parts ≠ [] := by
        rintro rfl
        have hself : b.extended [] = b := by simp [Path.extended]
        exact h.makeDirectory_ne hb (hself ▸ noEntry_of_isMissing htry hmissing)
      have hmade := ih (fun hmem => hdown (List.mem_of_mem_dropLast hmem)) (parent_extended hne b ▸ habove)
      rcases hlast with ⟨rfl, -⟩ | ⟨-, hlast, -⟩
      · exact hmade
      · exact hmade.trans (makeDirectory_grown (h.grown hmade) hb hdown hlast)

/-- A file is written where its path leads. -/
theorem write_eq_ok {p : Path} (h : d.write p data = .ok e) :
    ∃ place, d.locate p = .ok place ∧ d.get? place ≠ some .directory ∧ e = d.put place (.file data) := by
  unfold Disk.write at h
  split at h
  · cases h
  cases hlocate : d.locate p with
  | error r =>
    rw [hlocate] at h
    cases h
  | ok place =>
    rw [hlocate] at h
    dsimp only at h
    split at h
    · cases h
    · rename_i hnot
      cases h
      exact ⟨place, rfl, hnot, rfl⟩

/-- What stands at one place gets to another one, where no directory is. -/
theorem rename_eq_ok {p q : Path} (h : d.rename p q = .ok e) :
    ∃ old new node, d.locate p = .ok old ∧ d.locate q = .ok new ∧ d.get? old = some node ∧
      d.get? new ≠ some .directory ∧ e = (d.delete old).put new node := by
  unfold Disk.rename at h
  split at h
  · rename_i old new hold hnew
    split at h
    · cases h
    · cases h
    · rename_i node hnode hplain
      cases h
      exact ⟨old, new, node, hold, hnew, hnode, hplain, rfl⟩
  · cases h
  · cases h

/-- A file is taken away, or there is none. -/
theorem remove_eq_ok {p : Path} (h : d.remove p = .ok e) :
    (e = d ∧ ∀ place, d.locate p = .ok place → d.get? place = none) ∨
      ∃ place, d.locate p = .ok place ∧ d.get? place ≠ some .directory ∧ e = d.delete place := by
  unfold Disk.remove at h
  split at h
  · rename_i place hplace
    split at h
    · cases h
    · rename_i node hfile hnode
      cases h
      refine .inr ⟨place, hplace, fun hdirectory => ?_, rfl⟩
      exact hfile (Option.some.inj (hnode.symm.trans hdirectory))
    · rename_i hnone
      cases h
      refine .inl ⟨rfl, fun other hother => ?_⟩
      cases hplace.symm.trans hother
      exact hnone
  · rename_i hnone
    cases h
    exact .inl ⟨rfl, fun place hplace => nomatch hnone.symm.trans hplace⟩
  · cases h

/-- A file is written below the directory. -/
theorem write_grown {p : Path} (htarget : ∀ place, d.locate p = .ok place → root <+: place ∧ place ≠ [])
    (hwrite : d.write p data = .ok e) : Disk.Grown root d e ∧
      ∃ place, d.locate p = .ok place ∧ e.get? place = some (.file data) := by
  obtain ⟨place, hplace, hnot, rfl⟩ := write_eq_ok hwrite
  obtain ⟨hinside, hne⟩ := htarget place hplace
  exact ⟨.put hinside hne (.inr hnot), place, hplace, Disk.get?_put hne d _⟩

/-- A file below the directory gets another name there. -/
theorem rename_grown {p q : Path} (hsource : ∀ place, d.locate p = .ok place → root <+: place ∧ place ≠ [] ∧
      d.get? place ≠ some .directory)
    (htarget : ∀ place, d.locate q = .ok place → root <+: place ∧ place ≠ [])
    (hrename : d.rename p q = .ok e) : Disk.Grown root d e := by
  obtain ⟨old, new, node, hold, hnew, hnode, hplain, rfl⟩ := rename_eq_ok hrename
  obtain ⟨hin, hne, hfile⟩ := hsource old hold
  obtain ⟨hinside, hnonempty⟩ := htarget new hnew
  have hgone : Disk.Grown root d (d.delete old) := .delete hin hfile
  refine hgone.trans (.put hinside hnonempty (.inr ?_))
  by_cases heq : new = old
  · rw [heq, Disk.get?_delete hne]
    simp
  · rw [Disk.get?_delete_of_ne heq]
    exact hplain

/-- A file below the directory is taken away. -/
theorem remove_grown {p : Path} (htarget : ∀ place, d.locate p = .ok place → root <+: place)
    (hremove : d.remove p = .ok e) : Disk.Grown root d e := by
  rcases remove_eq_ok hremove with ⟨rfl, -⟩ | ⟨place, hplace, hfile, rfl⟩
  · exact .refl root _
  · exact .delete (htarget place hplace) hfile

/-- A temporary file lies beside the artifact. -/
theorem temporaryPath_eq (hne : parts ≠ []) (hslash : ∀ c ∈ parts, '/' ∉ c.toList) {mark : String}
    (hmark : '/' ∉ mark.toList) (d : Disk) (p : Path) :
    ∃ beside, beside ≠ ".." ∧ endsWith beside ".tmp" = true ∧
      temporaryPath d (p.extended parts) mark = d.absolute (p.extended (parts.dropLast ++ [beside])) := by
  let beside := "." ++ (p.extended parts).stem ++ "_" ++ mark ++ ".tmp"
  have hletter : 'p' ∈ beside.toList := by
    simp [beside, String.toList_append]
  have hother {c : String} (hc : 'p' ∉ c.toList) : beside ≠ c := fun heq => hc (heq ▸ hletter)
  have hname : (p.extended parts).name ∈ parts := by
    rw [Path.name, Path.extended, List.getLastD_eq_getLast?, List.getLast?_append_of_ne_nil _ hne,
      List.getLast?_eq_some_getLast hne, Option.getD_some]
    exact List.getLast_mem hne
  have hstem : '/' ∉ (p.extended parts).stem.toList := by
    rw [Path.stem]
    dsimp only
    split
    · exact hslash _ hname
    · rw [String.toList_ofList]
      exact fun hmem => hslash _ hname (mem_of_mem_cutLast hmem)
  have hbeside : '/' ∉ beside.toList := by
    simp [beside, String.toList_append, hstem, hmark]
  have hending : endsWith beside ".tmp" = true := endsWith_iff.2 ⟨_, String.toList_append⟩
  refine ⟨beside, hother (by decide), hending, ?_⟩
  have hread : Path.ofString beside = ⟨0, [beside]⟩ :=
    Path.ofString_component hbeside (hother (by decide)) (hother (by decide))
  rw [temporaryPath, Path.append, show Path.ofString ("." ++ _ ++ "_" ++ mark ++ ".tmp") = _ from hread,
    parent_extended hne]
  show d.absolute (Path.mk _ ((p.parts ++ parts.dropLast) ++ [beside])) = _
  rw [List.append_assoc]
  rfl

/-- The marks of temporary files have no slash. -/
theorem slash_notMem_mark (n : Nat) : '/' ∉ (({} : Circumstances).mark n).toList := by
  cases n with
  | zero => decide
  | succ n =>
    show '/' ∉ ("pending" ++ showNat (n + 1)).toList
    rw [String.toList_append, List.mem_append, not_or, showNat, toString, instToStringNat]
    refine ⟨by decide, fun hslash => ?_⟩
    rw [Nat.toList_repr] at hslash
    exact absurd (Nat.isDigit_of_mem_toDigits (by decide) (by decide) hslash) (by decide)

/-- A mark that is found is one that is not taken. -/
theorem freeMark?_eq_some {isTaken : String → Bool} {mark : Nat → String} {attempts n : Nat} {found : String}
    (h : freeMark? isTaken mark attempts n = some found) : isTaken found = false ∧ ∃ k, found = mark k := by
  induction attempts generalizing n with
  | zero => cases h
  | succ attempts ih =>
    rw [freeMark?] at h
    split at h
    · exact ih h
    · rename_i hfree
      cases h
      exact ⟨by simpa using hfree, n, rfl⟩

/-- **The ways in which data get into a file**: no temporary file can be written, or the one that was is given up, or
it takes the place of the file. -/
theorem replaceFile_cases {c : Circumstances} {p : Path} {failed : Option Raised}
    (h : replaceFile c d p data = (e, failed)) :
    (e = d ∧ failed ≠ none) ∨ ∃ n written f, d.exists (temporaryPath d p (c.mark n)) = false ∧
      d.write (temporaryPath d p (c.mark n)) written = .ok f ∧
      ((∃ why, abandon c f (temporaryPath d p (c.mark n)) why = (e, failed)) ∨
        written = data ∧ f.rename (temporaryPath d p (c.mark n)) p = .ok e ∧ failed = none) := by
  unfold replaceFile writeTemporary at h
  split at h
  · cases h
    exact .inl ⟨rfl, nofun⟩
  rename_i temporary f hwritten
  split at hwritten
  · cases hwritten
  rename_i mark hmark
  obtain ⟨hfree, n, rfl⟩ := freeMark?_eq_some hmark
  split at hwritten
  · cases hwritten
  obtain ⟨written, hwritten, hall⟩ : ∃ written,
      (d.write (temporaryPath d p (c.mark n)) written).map (temporaryPath d p (c.mark n), ·) = .ok (temporary, f) ∧
        (c.writing = none → written = data) := ⟨_, hwritten, fun hnone => by rw [hnone]⟩
  cases hwrite : d.write (temporaryPath d p (c.mark n)) written with
  | error why =>
    rw [hwrite] at hwritten
    cases hwritten
  | ok g => ?_
  rw [hwrite] at hwritten
  obtain ⟨rfl, rfl⟩ : temporaryPath d p (c.mark n) = temporary ∧ g = f := Prod.mk.inj (Except.ok.inj hwritten)
  refine .inr ⟨n, written, g, hfree, hwrite, ?_⟩
  unfold commit at h
  split at h
  · exact .inl ⟨_, h⟩
  · exact .inl ⟨_, h⟩
  · rename_i hnone _
    split at h
    · rename_i renamed hrename
      cases h
      exact .inr ⟨hall hnone, hrename, rfl⟩
    · exact .inl ⟨_, h⟩

/-- What is left after a temporary file has been given up. -/
theorem abandon_cases {c : Circumstances} {p : Path} {why : Raised} {failed : Option Raised}
    (h : abandon c d p why = (e, failed)) : failed = some why ∧ (e = d ∨ d.remove p = .ok e) := by
  unfold abandon at h
  split at h
  · rename_i cleaned _ hremove
    cases h
    exact ⟨rfl, .inr hremove⟩
  · cases h
    exact ⟨rfl, .inl rfl⟩

/-- **A save makes directories first**, and puts the data into the file if it can. -/
theorem saveIn_cases {c : Circumstances} {failed : Option Raised} (h : store.saveIn c d name data = (e, failed)) :
    (failed ≠ none ∧ d.makeDirectoriesWithin c.making c.nesting (store.pathOf name).parent = (e, failed)) ∨
      ∃ made fault, d.makeDirectoriesWithin c.making c.nesting (store.pathOf name).parent = (made, none) ∧
        replaceFile c made (store.pathOf name) data = (e, fault) ∧
        failed = fault.map (saveFailed name (store.pathOf name)) := by
  unfold saveIn at h
  split at h
  · rename_i made why hmake
    cases h
    exact .inl ⟨nofun, hmake⟩
  · rename_i made hmake
    obtain ⟨⟨f, fault⟩, hreplace⟩ : ∃ result, replaceFile c made (store.pathOf name) data = result := ⟨_, rfl⟩
    rw [hreplace] at h
    cases h
    exact .inr ⟨made, fault, hmake, hreplace, rfl⟩

/-- The path of a unit's artifact leads beneath the directory of the store. -/
def Confines (store : DurableStore) (root : List String) (name : String) : Prop :=
  ∃ b parts, store.IsBase root b ∧ store.pathOf name = b.extended parts ∧ parts ≠ [] ∧ ".." ∉ parts ∧
    ∀ c ∈ parts, '/' ∉ c.toList

/-- What is written for a plain name is below the directory. -/
theorem confines_of_isPlain (root : List String) (hname : UnitName.IsPlain name) : store.Confines root name := by
  refine ⟨store.directory, UnitName.components name, .inl rfl, ?_, UnitName.components_ne_nil name,
    UnitName.up_notMem_components name, fun c => UnitName.slash_notMem_of_mem_components⟩
  rw [pathOf, Path.append, UnitName.ofString_toPath hname]
  rfl

/-- **A save changes nothing elsewhere**, whether it succeeds or not. -/
theorem save_grown (h : store.LiesIn d root) (hname : store.Confines root name) (data : Bytes) :
    Disk.Grown root d (store.save d name data).1 := by
  obtain ⟨b, parts, hb, hpath, hne, hdown, hslash⟩ := hname
  have hup : ".." ∉ parts.dropLast := fun hmem => hdown (List.mem_of_mem_dropLast hmem)
  obtain ⟨⟨e, failed⟩, hsave⟩ : ∃ result, store.saveIn {} d name data = result := ⟨_, rfl⟩
  rw [save, hsave]
  have hmakes {made : Disk} {above : Option Raised} (hmake : d.makeDirectoriesWithin (fun _ _ => none)
      Disk.nestingLimit (store.pathOf name).parent = (made, above)) : Disk.Grown root d made := by
    rw [hpath, parent_extended hne] at hmake
    exact makeDirectories_grown h hb hup hmake
  rcases saveIn_cases hsave with ⟨-, hmake⟩ | ⟨made, fault, hmake, hreplace, -⟩
  · exact hmakes hmake
  have hmade := hmakes hmake
  rw [hpath] at hreplace
  rcases replaceFile_cases hreplace with ⟨rfl, -⟩ | ⟨n, written, f, -, hwrite, hlast⟩
  · exact hmade
  obtain ⟨beside, hbeside, -, htemporary⟩ := temporaryPath_eq hne hslash (slash_notMem_mark n) made b
  have hbelow : ".." ∉ parts.dropLast ++ [beside] := by simp [hup, Ne.symm hbeside]
  -- where the artifact and the temporary file are, in whatever tree has grown out of the one with the directories
  have hartifact {g : Disk} (hg : Disk.Grown root made g) (place : List String)
      (hplace : g.locate (b.extended parts) = .ok place) : root <+: place ∧ place ≠ [] := by
    rw [((h.grown hmade).grown hg).target hb hdown hplace]
    exact ⟨List.prefix_append _ _, by simp [hne]⟩
  have hfile {g : Disk} (hg : Disk.Grown root made g) (place : List String)
      (hplace : g.locate (temporaryPath made (b.extended parts) (({} : Circumstances).mark n)) = .ok place) :
      root <+: place ∧ place ≠ [] := by
    have habsolute : made.absolute (b.extended (parts.dropLast ++ [beside])) =
        g.absolute (b.extended (parts.dropLast ++ [beside])) := by
      rw [Disk.absolute, Disk.absolute, hg.here]
    rw [htemporary, habsolute] at hplace
    rw [((h.grown hmade).grown hg).target_absolute hb hbelow hplace]
    exact ⟨List.prefix_append _ _, by simp⟩
  obtain ⟨hput, there, hthere, hcontent⟩ := write_grown (hfile (.refl root made)) hwrite
  refine hmade.trans (hput.trans ?_)
  rcases hlast with ⟨why, hgiven⟩ | ⟨-, hrename, -⟩
  · obtain ⟨-, rfl | hremove⟩ := abandon_cases hgiven
    · exact .refl root _
    · exact remove_grown (fun place hplace => (hfile hput place hplace).1) hremove
  · refine rename_grown (fun place hplace => ?_) (hartifact hput) hrename
    obtain ⟨hinside, hnonempty⟩ := hfile hput place hplace
    cases hplace.symm.trans (hput.locate_eq_ok hthere)
    exact ⟨hinside, hnonempty, by simp [hcontent]⟩

/-! ## Failures -/

/-- The reasons of the system are failures of its kind. -/
theorem isSystem_raised (r : Refusal) (p : Path) (q : Option Path) : isKind (r.raised p q).kind "OSError" = true := by
  show isKind r.details.2.2 "OSError" = true
  cases r <;> decide +kernel

/-- The failure of a directory that cannot be made is one of the system. -/
theorem isSystem_of_tryDirectory {refuses : Disk → Path → Option SystemFailure} {p : Path} {why : Raised}
    (h : d.tryDirectory refuses p = .error why) : isKind why.kind "OSError" = true := by
  unfold Disk.tryDirectory at h
  split at h
  · rename_i failure _
    cases h
    exact failure.isSystem
  · cases hmake : d.makeDirectory p with
    | ok made =>
      rw [hmake] at h
      cases h
    | error r =>
      rw [hmake] at h
      cases h
      exact isSystem_raised r p none

theorem hasNull_parent {p : Path} (h : Disk.hasNull p = false) : Disk.hasNull p.parent = false := by
  rw [Disk.hasNull, List.any_eq_false] at h ⊢
  exact fun part hpart => h part (List.mem_of_mem_dropLast hpart)

/-- **The failures of the making of directories** are those of the system, but for a path with a NUL in it and for one
with more directories to be made than there is room for calls; then none is made. -/
theorem failure_of_makeDirectories {refuses : Disk → Path → Option SystemFailure} {p : Path} {depth : Nat} {why : Raised}
    (h : d.makeDirectoriesWithin refuses depth p = (e, some why)) :
    isKind why.kind "OSError" = true ∨ e = d ∧ (why = embeddedNull ∧ Disk.hasNull p = true ∨
      why = Disk.nestedTooDeep ∧ depth < p.parts.length) := by
  induction depth generalizing p e why with
  | zero =>
    rcases makeDirectories_cases h with ⟨rfl, hwhy⟩ | ⟨-, hnone⟩ | ⟨fewer, -, -, -, hdepth, -⟩
    · rcases hwhy why rfl with hnull | ⟨rfl, -, hne⟩ | htry
      · exact .inr ⟨rfl, .inl hnull⟩
      · exact .inr ⟨rfl, .inr ⟨rfl, List.length_pos_of_ne_nil hne⟩⟩
      · exact .inl (isSystem_of_tryDirectory htry)
    · cases hnone
    · cases hdepth
  | succ depth ih =>
    rcases makeDirectories_cases h with ⟨rfl, hwhy⟩ | ⟨-, hnone⟩ |
      ⟨fewer, missing, made, above, hdepth, hne, hnull, -, -, habove, hlast⟩
    · rcases hwhy why rfl with hnull | ⟨-, hdepth, -⟩ | htry
      · exact .inr ⟨rfl, .inl hnull⟩
      · cases hdepth
      · exact .inl (isSystem_of_tryDirectory htry)
    · cases hnone
    · obtain rfl := Nat.succ.inj hdepth
      rcases hlast with ⟨rfl, hwhy⟩ | ⟨-, -, hnone⟩
      · rcases hwhy why rfl with rfl | htry
        · refine (ih habove).imp_right fun ⟨hsame, hcase⟩ => ⟨hsame, ?_⟩
          rcases hcase with ⟨rfl, hnull'⟩ | ⟨rfl, hlong⟩
          · rw [hasNull_parent hnull] at hnull'
            cases hnull'
          · refine .inr ⟨rfl, ?_⟩
            rw [Path.parent, List.length_dropLast] at hlong
            omega
        · exact .inl (isSystem_of_tryDirectory htry)
      · cases hnone

theorem isOrdinary_of_isSystem {why : Raised} (h : isKind why.kind "OSError" = true) : why.isOrdinary = true := by
  have hnone : ∀ kind ∈ leavingKinds, isKind kind "OSError" = false := by decide +kernel
  rw [Raised.isOrdinary, Bool.not_eq_true', List.contains_eq_mem, decide_eq_false_iff_not]
  intro hleaving
  rw [hnone _ hleaving] at h
  cases h

/-- **A save fails with a failure that can be handled.** -/
theorem isOrdinary_of_save {why : Raised} (h : (store.save d name data).2 = some why) :
    why.isOrdinary = true := by
  obtain ⟨⟨e, failed⟩, hsave⟩ : ∃ result, store.saveIn {} d name data = result := ⟨_, rfl⟩
  rw [save, hsave] at h
  obtain rfl : failed = some why := h
  rcases saveIn_cases hsave with ⟨-, hmake⟩ | ⟨made, fault, -, -, hfault⟩
  · rcases failure_of_makeDirectories hmake with hsystem | ⟨-, ⟨rfl, -⟩ | ⟨rfl, -⟩⟩
    · exact isOrdinary_of_isSystem hsystem
    · rfl
    · rfl
  · obtain ⟨other, -, rfl⟩ := Option.map_eq_some_iff.1 hfault.symm
    rfl

/-! ## A store in an empty directory -/

/-- A tree with an empty directory. -/
def emptyDirectory : Disk where
  nodes := [(["store"], .directory)]

/-- A store in this directory. -/
def inDirectory : DurableStore := ⟨⟨1, ["store"]⟩⟩

theorem inDirectory_liesIn : inDirectory.LiesIn emptyDirectory ["store"] where
  located := by decide +kernel
  above place hplace := (by decide +kernel : ∀ p ∈ ["store"].inits, emptyDirectory.get? p = some .directory) place
    ((List.mem_inits place ["store"]).2 hplace)
  settled := List.not_mem_nil

end DurableStore

end UnitFoundry
