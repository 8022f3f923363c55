import UnitFoundry.Proofs.Operations
import UnitFoundry.Proofs.Store
import UnitFoundry.Proofs.UnitName

/-!
# Where a durable store reads and writes

The path of an artifact is read from the directory of the store, with a slash for each dot of the unit's name. So a
name that begins with a dot, or with a slash, is read as a path from the root: whatever the directory of the store is,
its artifact goes there. Every other name stays beneath the directory.

* `isPlain_canonical` — a unit and the copy of its artifact have names of the same kind;
* `Disk.AgreesBelow`, `get_eq` — what is read beneath the directory;
* `confined_iff` — **which names stay beneath the directory**, what is written and read for these, and where all
  others lead.
-/

namespace UnitFoundry

open Text

/-! ## Canonical names -/

namespace UnitName

variable {name : String} {s : List Char} {c : Char}

/-- Markers are not taken away from the start of a text that begins with something else. -/
theorem head?_stripMarkers (hc : c ≠ '_') : (stripMarkers s).head? = some c ↔ s.head? = some c := by
  cases s with
  | nil => rfl
  | cons b rest =>
    rw [stripMarkers]
    split
    · rename_i hmarkers
      obtain ⟨rfl, -⟩ := isMarkers_cons hmarkers
      simp [Ne.symm hc]
    · rfl

theorem head?_canonicalChars (hc : c ≠ '_') (hbreak : c ≠ '\n') :
    (canonicalChars s).head? = some c ↔ s.head? = some c := by
  have hlast (x : List Char) : (x ++ ['\n']).head? = some c ↔ x.head? = some c := by
    cases x with
    | nil => simp [Ne.symm hbreak]
    | cons b rest => rfl
  by_cases hs : ∃ x, s = x ++ ['\n']
  · obtain ⟨x, rfl⟩ := hs
    rw [canonicalChars_break, hlast, hlast, head?_stripMarkers hc]
  · rw [canonicalChars_of_ne_break fun x hx => hs ⟨x, hx⟩, head?_stripMarkers hc]

/-- A unit and the copy of its artifact have names of the same kind. -/
theorem isPlain_canonical : IsPlain (canonical name) ↔ IsPlain name := by
  rw [IsPlain, IsPlain, toList_canonical, ne_eq, ne_eq, ne_eq, ne_eq, head?_canonicalChars (by decide) (by decide),
    head?_canonicalChars (by decide) (by decide)]

end UnitName

/-! ## Trees that agree below a place -/

/-- Two trees have the same nodes from a place on downwards. -/
structure Disk.AgreesBelow (root : List String) (d e : Disk) : Prop where
  here : d.here = e.here
  same : ∀ place, root <+: place → d.get? place = e.get? place

/-- A walk down depends on the places on its way only. -/
theorem Disk.walk_congr {d e : Disk} {here parts : List String} (hdown : ".." ∉ parts)
    (hsame : ∀ place, here <+: place → place <+: here ++ parts → d.get? place = e.get? place) :
    d.walk here parts = e.walk here parts := by
  induction parts generalizing here with
  | nil => rfl
  | cons part rest ih =>
    simp only [List.mem_cons, not_or] at hdown
    have hrest : d.walk (here ++ [part]) rest = e.walk (here ++ [part]) rest := by
      refine ih hdown.2 fun place hhere hplace => hsame place ((List.prefix_append here _).trans hhere) ?_
      rwa [List.append_cons here part rest]
    rw [walk, walk, hsame here (List.prefix_refl here) (List.prefix_append here _), if_neg (Ne.symm hdown.1), hrest]

namespace DurableStore

variable {store : DurableStore} {d e : Disk} {b : Path} {root parts : List String} {name : String} {data : Bytes}

namespace LiesIn

/-- A path below the directory leads to the same place in trees that agree there. -/
theorem locate_eq (h : store.LiesIn d root) (h' : store.LiesIn e root) (hagree : Disk.AgreesBelow root d e)
    (hb : store.IsBase root b) (hdown : ".." ∉ parts) : d.locate (b.extended parts) = e.locate (b.extended parts) := by
  rcases hb with rfl | ⟨habsolute, rfl⟩
  · rw [Disk.locate_extended h.located, Disk.locate_extended h'.located,
      Disk.walk_congr hdown fun place hroot _ => hagree.same place hroot]
  · have hwalk : d.walk [] (b.parts ++ parts) = e.walk [] (b.parts ++ parts) := by
      refine Disk.walk_congr (by simp [h.up_notMem, hdown]) fun place _ hplace => ?_
      rcases List.prefix_or_prefix_of_prefix hplace (List.prefix_append b.parts parts) with habove | hbelow
      · rw [h.above place habove, h'.above place habove]
      · exact hagree.same place hbelow
    have hextended : (b.extended parts).isAbsolute = true := habsolute
    rw [Disk.locate, Disk.locate, if_pos hextended, if_pos hextended, show (b.extended parts).parts = b.parts ++ parts
      from rfl, hwalk]

/-- **What is read is read beneath the directory.** -/
theorem get_eq (h : store.LiesIn d root) (h' : store.LiesIn e root) (hagree : Disk.AgreesBelow root d e)
    (hname : store.Confines root name) : store.get d name = store.get e name := by
  obtain ⟨b, parts, hb, hpath, -, hdown, -⟩ := hname
  have hlook : d.look (store.pathOf name) = e.look (store.pathOf name) := by
    rw [hpath, Disk.look, Disk.look, h.locate_eq h' hagree hb hdown]
    cases hlocate : e.locate (b.extended parts) with
    | error r => cases r <;> rfl
    | ok place =>
      obtain rfl := h'.target hb hdown hlocate
      dsimp only
      rw [hagree.same _ (List.prefix_append root parts)]
  rw [get, get, Disk.find, Disk.find, hlook]

end LiesIn

/-! ## Names that stay beneath the directory -/

/-- A name that is not plain is read as a path from the root. -/
theorem pathOf_of_not_isPlain (hname : ¬ UnitName.IsPlain name) (store : DurableStore) :
    store.pathOf name = Path.ofString (UnitName.toPath name UnitName.artifactExtension) := by
  have habsolute : (Path.ofString (UnitName.toPath name UnitName.artifactExtension)).isAbsolute = true := by
    rw [Path.isAbsolute, bne_iff_ne]
    exact fun hslashes => hname (UnitName.slashes_toPath.1 hslashes)
  rw [pathOf, Path.append, Path.join, if_pos habsolute]

/-- **The names that stay beneath the directory** are the plain ones, and those that lead there from the root. -/
theorem LiesIn.confines_iff (h : store.LiesIn d root) : store.Confines root name ↔
    UnitName.IsPlain name ∨ ∃ rest, rest ≠ [] ∧ UnitName.components name = root ++ rest := by
  constructor
  · rintro ⟨b, parts, hb, hpath, hne, -⟩
    by_cases hname : UnitName.IsPlain name
    · exact .inl hname
    rw [pathOf_of_not_isPlain hname] at hpath
    have hcomponents : UnitName.components name = b.parts ++ parts := by
      rw [UnitName.components, hpath]
      rfl
    refine .inr ⟨parts, hne, ?_⟩
    rcases hb with rfl | ⟨-, rfl⟩
    · -- the directory goes by an absolute path, in which there are no steps up
      have habsolute : store.directory.isAbsolute = true := by
        rw [Path.isAbsolute, bne_iff_ne, show store.directory.slashes = _ from (congrArg Path.slashes hpath).symm]
        exact fun hslashes => hname (UnitName.slashes_toPath.1 hslashes)
      have hdown : ".." ∉ store.directory.parts := fun hup =>
        UnitName.up_notMem_components name (hcomponents ▸ List.mem_append_left _ hup)
      rw [hcomponents, Disk.eq_of_locate habsolute hdown h.located]
    · exact hcomponents
  · rintro (hname | ⟨rest, hne, hcomponents⟩)
    · exact confines_of_isPlain root hname
    by_cases hname : UnitName.IsPlain name
    · exact confines_of_isPlain root hname
    obtain ⟨slashes, hslashes, hread⟩ : ∃ slashes, slashes ≠ 0 ∧
        Path.ofString (UnitName.toPath name UnitName.artifactExtension) = ⟨slashes, UnitName.components name⟩ :=
      ⟨_, fun hzero => hname (UnitName.slashes_toPath.1 hzero), by rw [UnitName.components]⟩
    have hpath : store.pathOf name = Path.extended ⟨slashes, root⟩ rest := by
      rw [pathOf_of_not_isPlain hname, hread, hcomponents]
      rfl
    have hmem {c : String} (hc : c ∈ rest) : c ∈ UnitName.components name := hcomponents ▸ List.mem_append_right _ hc
    exact ⟨⟨slashes, root⟩, rest, .inr ⟨bne_iff_ne.2 hslashes, rfl⟩, hpath, hne,
      fun hup => UnitName.up_notMem_components name (hmem hup),
      fun c hc => UnitName.slash_notMem_of_mem_components (hmem hc)⟩

/-- What is copied to a side store is written beneath its directory. -/
theorem LiesIn.copy_grown {s t : Session} {result : Except Failure PUnit} (h : store.LiesIn s.disk root)
    (hstore : s.sideStore = .durable store) (hname : store.Confines root name)
    (hcopy : Action.attempt (Action.saveCopy name data) s = .ok result t) : Disk.Grown root s.disk t.disk := by
  have hgrown := save_grown h hname data
  have hdisk : (s.sideStore.take name data s.disk).2.1 = (store.save s.disk name data).1 := by
    rw [hstore, SideStore.take]
  generalize (store.save s.disk name data).1 = disk at hgrown hdisk
  rcases htake : s.sideStore.take name data s.disk with ⟨sideStore, tree, refusal⟩
  rw [htake] at hdisk
  obtain rfl := hdisk
  obtain ⟨log, hsave⟩ := Action.saveCopy_of_take htake
  cases hverdict : SideStore.verdict refusal with
  | ok a =>
    rw [hverdict] at hsave
    cases (Action.attempt_ok hsave).symm.trans hcopy
    exact hgrown
  | error f =>
    rw [hverdict] at hsave
    cases (Action.attempt_error hsave).symm.trans hcopy
    exact hgrown

/-- **Which names a store keeps beneath its directory.** Those that do not begin with a dot or a slash, and those
that lead there from the root. For these, all that is written and read is beneath the directory, the copies of units
included. Every other name leads to one and the same place for all stores. -/
theorem LiesIn.confined_iff (h : store.LiesIn d root) (name : String) :
    (store.Confines root name ↔
      UnitName.IsPlain name ∨ ∃ rest, rest ≠ [] ∧ UnitName.components name = root ++ rest) ∧
    (store.Confines root name →
      (∀ data, Disk.Grown root d (store.save d name data).1) ∧
      ∀ e, store.LiesIn e root → Disk.AgreesBelow root d e →
        store.get d name = store.get e name ∧ store.contains d name = store.contains e name) ∧
    (¬ UnitName.IsPlain name → ∀ other : DurableStore, other.pathOf name = store.pathOf name) ∧
    (UnitName.IsPlain (UnitName.canonical name) ↔ UnitName.IsPlain name) ∧
    (store.Confines root (UnitName.canonical name) → ∀ (s t : Session) (data : Bytes) (result : Except Failure PUnit),
      s.sideStore = .durable store → s.disk = d →
        Action.attempt (Action.saveCopy (UnitName.canonical name) data) s = .ok result t →
          Disk.Grown root d t.disk) := by
  refine ⟨h.confines_iff, fun hname => ⟨save_grown h hname, fun e h' hagree => ?_⟩, fun hname other => ?_,
    UnitName.isPlain_canonical, ?_⟩
  · have hget := h.get_eq h' hagree hname
    exact ⟨hget, by rw [contains, contains, hget]⟩
  · rw [pathOf_of_not_isPlain hname, pathOf_of_not_isPlain hname]
  · rintro hname s t data result hstore rfl hcopy
    exact h.copy_grown hstore hname hcopy

/-! ### A store in a directory -/

/-- The artifact of a unit in a package is saved beneath the directory. -/
theorem inDirectory_confined :
    (inDirectory.LiesIn emptyDirectory ["store"] ∧ inDirectory.Confines ["store"] "p.A_ts1") ∧
    Disk.Grown ["store"] emptyDirectory (inDirectory.save emptyDirectory "p.A_ts1" [1]).1 :=
  have h := inDirectory_liesIn.confined_iff "p.A_ts1"
  have hname : inDirectory.Confines ["store"] "p.A_ts1" := h.1.2 (.inl (by decide))
  ⟨⟨inDirectory_liesIn, hname⟩, (h.2.1 hname).1 [1]⟩

/-- The artifact of a unit whose name begins with a dot is saved beside the directory. -/
theorem inDirectory_escapes :
    inDirectory.LiesIn emptyDirectory ["store"] ∧ ¬ inDirectory.Confines ["store"] ".x" ∧
    (inDirectory.save emptyDirectory ".x" [1]).2 = none ∧
    emptyDirectory.get? ["x.pyc"] = none ∧
    (inDirectory.save emptyDirectory ".x" [1]).1.get? ["x.pyc"] = some (.file [1]) ∧
    inDirectory.get (inDirectory.save emptyDirectory ".x" [1]).1 ".x" = .ok (some [1]) := by
  refine ⟨inDirectory_liesIn, fun hname => ?_, by decide +kernel, by decide +kernel, by decide +kernel,
    by decide +kernel⟩
  rcases inDirectory_liesIn.confines_iff.1 hname with hplain | ⟨rest, -, hrest⟩
  · exact absurd hplain (by decide)
  · have hcomponents : UnitName.components ".x" = ["x.pyc"] := by decide +kernel
    exact absurd (List.cons.inj (hcomponents.symm.trans hrest)).1 (by decide)

end DurableStore

end UnitFoundry
