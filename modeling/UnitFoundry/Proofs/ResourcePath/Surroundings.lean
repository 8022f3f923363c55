import UnitFoundry.Proofs.Disk.Regions
import UnitFoundry.Proofs.Store
import UnitFoundry.ResourcePath

/-!
# What the resource path depends on

A place of the resource path is searched below its directory, or in its archive, and nowhere else: as long as a path
takes no step up, and a package is not read as a path from the root, what is found and listed depends only on what
the tree has around the places.

* `Path.IsResolved` — the paths of places: absolute, and without steps up;
* `Path.LeadsDown` — the texts that are read as paths below a directory;
* `Disk.NamedBelow` — the names below a place are such that paths can be written with them;
* `ResourcePath.SameAround` — two trees are the same around all places;
* `find_eq`, `list_eq` — **what is found and what is listed is then the same**.
-/

namespace UnitFoundry

open Text

/-! ## Paths -/

namespace Path

/-- An absolute path without steps up, as the resource path has them. -/
structure IsResolved (p : Path) : Prop where
  absolute : p.isAbsolute = true
  down : ".." ∉ p.parts

instance (p : Path) : Decidable p.IsResolved :=
  decidable_of_iff (p.isAbsolute = true ∧ ".." ∉ p.parts) ⟨fun ⟨ha, hd⟩ => ⟨ha, hd⟩, fun ⟨ha, hd⟩ => ⟨ha, hd⟩⟩

theorem IsResolved.extended {p : Path} {parts : List String} (h : p.IsResolved) (hdown : ".." ∉ parts) :
    (p.extended parts).IsResolved :=
  ⟨h.absolute, by simp [Path.extended, h.down, hdown]⟩

/-- A text that is read as a path below a directory. -/
structure LeadsDown (s : String) : Prop where
  relative : s.toList.head? ≠ some '/'
  down : ".." ∉ (ofString s).parts

variable {p : Path} {s : String} {parts : List String}

/-- A text that does not begin with a slash is read as a path from another one. -/
theorem append_of_relative (h : s.toList.head? ≠ some '/') (p : Path) : p.append s = p.extended (ofString s).parts := by
  rw [append, join, isAbsolute, slashes_ofString h]
  rfl

theorem LeadsDown.append_eq (h : LeadsDown s) (p : Path) : p.append s = p.extended (ofString s).parts :=
  append_of_relative h.relative p

theorem leadsDown_slashed (h : ∀ c ∈ parts, IsComponent c) : LeadsDown (slashed parts) where
  relative := head?_slashed h
  down := by
    rw [ofString_slashed h]
    exact fun hup => (h _ hup).ne_above rfl

/-- A path from which the slashes at its start have been taken away. -/
theorem head?_dropWhile (s : String) : (String.ofList (s.toList.dropWhile (· = '/'))).toList.head? ≠ some '/' := by
  rw [String.toList_ofList]
  have hhead := List.head?_dropWhile_not (fun c : Char => decide (c = '/')) s.toList
  cases hfirst : (s.toList.dropWhile (· = '/')).head? with
  | none => simp
  | some c => simpa [hfirst] using hhead

/-- The slashes before a path leave no trace in its pieces. -/
theorem leadsDown_dropWhile (h : ".." ∉ pieces '/' s) :
    LeadsDown (String.ofList (s.toList.dropWhile (· = '/'))) := by
  constructor
  · exact head?_dropWhile s
  · intro hup
    have hpieces : ".." ∈ pieces '/' (String.ofList (s.toList.dropWhile (· = '/'))) := (mem_parts_ofString.1 hup).1
    rw [pieces, String.toList_ofList] at hpieces
    have hdrop (l : List Char) : splitOn '/' (l.dropWhile (· = '/')) ⊆ splitOn '/' l := by
      induction l with
      | nil => exact fun _ hmem => hmem
      | cons c l ih =>
        by_cases hc : c = '/'
        · rw [List.dropWhile_cons_of_pos (by simpa using hc), splitOn, if_pos hc]
          exact fun piece hpiece => List.mem_cons_of_mem _ (ih hpiece)
        · rw [List.dropWhile_cons_of_neg (by simpa using hc)]
          exact fun _ hmem => hmem
    obtain ⟨piece, hpiece, heq⟩ := List.mem_map.1 hpieces
    exact h (heq ▸ List.mem_map_of_mem (hdrop s.toList hpiece))

/-- The directory of a package is below a place. -/
theorem leadsDown_of_isPlain {package : String} (h : UnitName.IsPlain package) :
    LeadsDown (replaceIn '.' '/' package) where
  relative := by
    rw [replaceIn, String.toList_ofList]
    exact UnitName.head?_replaceChar.2 h
  down hup := by
    obtain ⟨piece, hpiece, heq⟩ := List.mem_map.1 (mem_parts_ofString.1 hup).1
    rw [← String.toList_inj, String.toList_ofList] at heq
    have hdot : '.' ∈ replaceChar '.' '/' package.toList := by
      have hmem := (sublist_of_mem_splitOn hpiece).subset (a := '.') (by rw [heq]; decide)
      rwa [replaceIn, String.toList_ofList] at hmem
    exact UnitName.dot_notMem_replaceChar package.toList hdot

end Path

/-! ## Places -/

/-- All names below a place are names that files and directories can have. -/
def Disk.NamedBelow (place : List String) (d : Disk) : Prop :=
  ∀ n ∈ d.nodes, place <+: n.1 → ∀ c ∈ n.1.drop place.length, Path.IsComponent c

theorem Disk.NamedBelow.congr {place : List String} {d e : Disk} (h : d.NamedBelow place)
    (hsame : Disk.SameAround place d e) : e.NamedBelow place := fun n hn hplace =>
  h n ((hsame.mem_iff (Disk.isAround_iff.2 (.inr hplace))).2 hn) hplace

namespace ResourcePath

variable {d e : Disk} {p : Path} {path directory : String} {recurse : Bool}

section Place

variable (hp : p.IsResolved) (h : Disk.SameAround p.parts d e)

include hp h

theorem look_extended_eq {parts : List String} (hdown : ".." ∉ parts) :
    d.look (p.extended parts) = e.look (p.extended parts) :=
  h.look_eq hp.absolute (hp.extended hdown).down
    (Disk.isAround_iff.2 (.inr (List.prefix_append p.parts parts)))

theorem node_eq : d.node? p = e.node? p :=
  h.node?_eq hp.absolute hp.down (Disk.isAround_iff.2 (.inr (List.prefix_refl p.parts)))

/-- What is read at a path. Only in a directory can paths lead up. -/
theorem readIn_eq (hpath : d.node? p = some .directory → Path.LeadsDown path) : readIn d p path = readIn e p path := by
  unfold readIn
  rw [← node_eq hp h]
  split
  · rename_i hdirectory
    obtain hdown := hpath hdirectory
    rw [hdown.append_eq, Disk.find, Disk.find, look_extended_eq hp h hdown.down]
  · rfl
  · rfl

theorem fileIn_eq (path : String) (data : Bytes) : fileIn d p path data = fileIn e p path data := by
  rw [fileIn, fileIn, uriIn, uriIn, Disk.isDirectory, Disk.isDirectory, node_eq hp h]

theorem pathsIn_eq (hdirectory : Path.LeadsDown directory) :
    pathsIn d p directory recurse = pathsIn e p directory recurse := by
  unfold pathsIn
  rw [← node_eq hp h]
  split
  · have hbase := hp.extended hdirectory.down
    rw [hdirectory.append_eq]
    dsimp only
    rw [look_extended_eq hp h hdirectory.down,
      h.filesBelow_eq hbase.absolute hbase.down (List.prefix_append p.parts _)]
  · rfl
  · rfl

omit h in
/-- The paths of what is listed below a directory lead down. -/
theorem leadsDown_of_mem_pathsIn (hnamed : d.NamedBelow p.parts) (hdirectory : Path.LeadsDown directory)
    {paths : List String} (hpaths : pathsIn d p directory recurse = .ok paths) (hnode : d.node? p = some .directory)
    (hmem : path ∈ paths) : Path.LeadsDown path := by
  unfold pathsIn at hpaths
  rw [hnode] at hpaths
  dsimp only at hpaths
  have hbase := hp.extended hdirectory.down
  rw [hdirectory.append_eq] at hpaths
  cases hlook : d.look (p.extended (Path.ofString directory).parts) with
  | error why =>
    rw [hlook] at hpaths
    cases hpaths
  | ok found =>
    rw [hlook] at hpaths
    dsimp only [bind, Except.bind] at hpaths
    split at hpaths
    · split at hpaths
      · cases hpaths
        obtain ⟨parts, hparts, rfl⟩ := List.mem_map.1 hmem
        have hleading : (p.extended (Path.ofString directory).parts).parts.drop p.parts.length =
            (Path.ofString directory).parts := List.drop_left ..
        rw [hleading]
        refine Path.leadsDown_slashed fun c hc => ?_
        cases hlocate : d.locate (p.extended (Path.ofString directory).parts) with
        | error r => simp [Disk.filesBelow, hlocate] at hparts
        | ok place =>
          have hplace := Disk.eq_of_locate hbase.absolute hbase.down hlocate
          obtain ⟨-, -, node, -, hnode⟩ := (Disk.mem_filesBelow hlocate).1 hparts
          rw [hplace] at hnode
          refine hnamed _ hnode ?_ c ?_
          · simp [Path.extended]
          · simpa [Path.extended] using hc
      · cases hpaths
        cases hmem
    · cases hpaths
      cases hmem

end Place

theorem filterMapM_congr {α β ε : Type} {l : List α} {f g : α → Except ε (Option β)}
    (h : ∀ a ∈ l, f a = g a) : l.filterMapM f = l.filterMapM g := by
  have hloop (acc : List β) : List.filterMapM.loop f l acc = List.filterMapM.loop g l acc := by
    induction l generalizing acc with
    | nil => rfl
    | cons a l ih =>
      rw [List.filterMapM.loop, List.filterMapM.loop, h a List.mem_cons_self]
      congr 1
      funext b
      cases b with
      | none => exact ih (fun c hc => h c (List.mem_cons_of_mem a hc)) acc
      | some b => exact ih (fun c hc => h c (List.mem_cons_of_mem a hc)) (b :: acc)
  exact hloop []

/-- The files that a place lists. -/
theorem listIn_eq (hp : p.IsResolved) (h : Disk.SameAround p.parts d e) (hnamed : d.NamedBelow p.parts)
    {package : String} (hpackage : UnitName.IsPlain package) (kinds : List FileKind) :
    listIn d p package kinds recurse = listIn e p package kinds recurse := by
  have hdirectory := Path.leadsDown_of_isPlain hpackage
  unfold listIn
  rw [← pathsIn_eq hp h hdirectory]
  cases hpaths : pathsIn d p (replaceIn '.' '/' package) recurse with
  | error why => rfl
  | ok paths =>
    have hfound : ((paths.filter fun path => (FileKind.ofPath? path).any kinds.contains).filterMapM fun path => do
          pure ((← readIn d p path).map (fileIn d p path))) =
        ((paths.filter fun path => (FileKind.ofPath? path).any kinds.contains).filterMapM fun path => do
          pure ((← readIn e p path).map (fileIn e p path))) := by
      refine filterMapM_congr fun path hpath => ?_
      rw [readIn_eq hp h fun hnode =>
        leadsDown_of_mem_pathsIn hp hnamed hdirectory hpaths hnode (List.mem_filter.1 hpath).1,
        funext (fileIn_eq hp h path)]
    have hbind (next : List String → Except Raised (List File)) : (Except.ok paths >>= next) = next paths := rfl
    rw [hbind, hbind]
    dsimp only
    rw [hfound, Disk.isDirectory, Disk.isDirectory, node_eq hp h]

/-! ## The whole path -/

/-- Two trees are the same around all places, where the names are such that paths can be written with them. -/
structure SameAround (r : ResourcePath) (d e : Disk) : Prop where
  resolved : ∀ p ∈ r.places, p.IsResolved
  named : ∀ p ∈ r.places, d.NamedBelow p.parts
  same : ∀ p ∈ r.places, Disk.SameAround p.parts d e

variable {r : ResourcePath}

/-- **What is found is the same.** -/
theorem find_eq (h : r.SameAround d e) (hpath : ".." ∉ pieces '/' path) : r.find d path = r.find e path := by
  have hdown := Path.leadsDown_dropWhile hpath
  have hfind (places : List Path) (hplaces : places ⊆ r.places) :
      findIn d (String.ofList (path.toList.dropWhile (· = '/'))) places =
        findIn e (String.ofList (path.toList.dropWhile (· = '/'))) places := by
    induction places with
    | nil => rfl
    | cons p places ih =>
      have hp := hplaces List.mem_cons_self
      have hrest := ih fun q hq => hplaces (List.mem_cons_of_mem p hq)
      rw [findIn, findIn, readIn_eq (h.resolved p hp) (h.same p hp) fun _ => hdown, hrest,
        funext (fileIn_eq (h.resolved p hp) (h.same p hp) _)]
  exact hfind r.places (List.Subset.refl _)

/-- **What is listed is the same.** -/
theorem list_eq (h : r.SameAround d e) {package : String} (hpackage : UnitName.IsPlain package)
    (kinds : List FileKind) (recurse : Bool) : r.list d package kinds recurse = r.list e package kinds recurse := by
  have hlist (places : List Path) (hplaces : places ⊆ r.places) :
      listAll d package kinds recurse places = listAll e package kinds recurse places := by
    induction places with
    | nil => rfl
    | cons p places ih =>
      have hp := hplaces List.mem_cons_self
      have hrest := ih fun q hq => hplaces (List.mem_cons_of_mem p hq)
      rw [listAll, listAll, listIn_eq (h.resolved p hp) (h.same p hp) (h.named p hp) hpackage, hrest]
  exact hlist r.places (List.Subset.refl _)

end ResourcePath

end UnitFoundry
