import UnitFoundry.File
import UnitFoundry.Proofs.UnitName.Markers
import UnitFoundry.Proofs.UnitPath

/-!
# Where the source of a unit is kept

The address of a source in memory is put together from the package of its unit and from the canonical name of the
file. Markers stand at the end of a name, after its last dot, and no marker has a dot. So it makes no difference
whether the file or the unit is given its canonical name, and all generations of a unit share one address. Slashes in
names, or a dot at their start, would make two units share it.

* `canonicalChars_dot`, `cutLast_canonicalChars` — the canonical name of a dotted name, part by part;
* `sourceUri_of_canonical` — generations of a unit have one address;
* `sourceUri_eq_slotUri` — the address is read off the canonical name;
* `sourceUri_eq_iff` — **others have another one**, unless slashes or a first dot are in the way.
-/

namespace UnitFoundry.UnitName

open UnitFoundry.Text

variable {s x y : List Char} {c : Char} {name other : String}

/-! ## Canonical names of dotted names -/

theorem canonicalChars_subset : canonicalChars s ⊆ s := by
  obtain ⟨body, hbody, hcanonical⟩ := exists_body s
  obtain ⟨m, -, hm⟩ := exists_markers body
  rw [hcanonical]
  intro c hc
  rw [hbody, hm]
  rcases List.mem_append.1 hc with hc | hc
  · simp [hc]
  · exact List.mem_append_right _ hc

/-- No marker lies across a dot. -/
theorem stripMarkers_dot (x y : List Char) : stripMarkers (x ++ '.' :: y) = x ++ '.' :: stripMarkers y := by
  induction x with
  | nil =>
    have hdot : ¬ isMarkers ('.' :: y) = true := fun h => nomatch (isMarkers_cons h).1
    rw [List.nil_append, stripMarkers, if_neg hdot, List.nil_append]
  | cons c x ih =>
    have hdot : ¬ isMarkers (c :: (x ++ '.' :: y)) = true :=
      fun h => notMem_of_isMarkersAfter (d := '.') (by decide) (by decide) h (by simp)
    rw [List.cons_append, stripMarkers, if_neg hdot, ih, List.cons_append]

/-- What stands before a dot is a part of the canonical name. -/
theorem canonicalChars_dot (x y : List Char) :
    canonicalChars (x ++ '.' :: y) = x ++ '.' :: canonicalChars y := by
  by_cases hbreak : ∃ z, y = z ++ ['\n']
  · obtain ⟨z, rfl⟩ := hbreak
    have hsplit : x ++ '.' :: (z ++ ['\n']) = (x ++ '.' :: z) ++ ['\n'] := by simp
    rw [hsplit, canonicalChars_break, canonicalChars_break, stripMarkers_dot]
    simp
  · have hall : ∀ z, x ++ '.' :: y ≠ z ++ ['\n'] := by
      intro z heq
      rcases List.eq_nil_or_concat y with rfl | ⟨y', c, rfl⟩
      · exact absurd (List.append_inj' heq rfl).2 (by simp)
      · rw [List.concat_eq_append, ← List.cons_append, ← List.append_assoc] at heq
        obtain ⟨-, hlast⟩ := List.append_inj' heq rfl
        exact hbreak ⟨y', by rw [List.concat_eq_append, hlast]⟩
    rw [canonicalChars_of_ne_break hall, canonicalChars_of_ne_break (by simpa using hbreak), stripMarkers_dot]

/-- The package of a canonical name is that of the name, and the rest of it is canonical. -/
theorem cutLast_canonicalChars (s : List Char) :
    cutLast '.' (canonicalChars s) = ((cutLast '.' s).1, canonicalChars (cutLast '.' s).2) := by
  by_cases hdot : '.' ∈ s
  · obtain ⟨x, y, rfl, hy⟩ := exists_last_of_mem hdot
    rw [canonicalChars_dot, cutLast_append hy, cutLast_append fun h => hy (canonicalChars_subset h)]
  · rw [cutLast_of_notMem hdot, cutLast_of_notMem fun h => hdot (canonicalChars_subset h)]

/-! ## Addresses of sources -/

/-- The address under which the source of a unit is kept. -/
def sourceUri (name : String) : String :=
  overlayUri Location.sourcePath.label (package name) (simple name ++ sourceExtension)

/-- The address that belongs to a canonical name. -/
def slotUri (canonical : String) : String :=
  uriScheme ++ ":///" ++ Location.sourcePath.label ++ "/" ++ toPath canonical sourceExtension

/-- The file of a source has the canonical name of what stands before the extension. -/
theorem canonicalFile_source (stem : String) :
    canonicalFile (stem ++ sourceExtension) = canonical stem ++ sourceExtension := by
  have hartifact : withoutSuffix? artifactExtension (stem ++ sourceExtension) = none := by
    rw [withoutSuffix?, Option.map_eq_none_iff, Option.eq_none_iff_forall_ne_some]
    intro rest hrest
    have heq := dropSuffix?_eq_some.1 hrest
    have hlast := congrArg List.getLast? heq
    simp [sourceExtension, artifactExtension] at hlast
  have hsource : withoutSuffix? sourceExtension (stem ++ sourceExtension) = some stem := by
    rw [withoutSuffix?, String.toList_append, dropSuffix?_append, Option.map_some, String.ofList_toList]
  rw [canonicalFile, hartifact, hsource]

/-- **Generations of a unit share one address.** -/
theorem sourceUri_of_canonical (h : canonical name = canonical other) : sourceUri name = sourceUri other := by
  have hcut := cutLast_canonicalChars name.toList
  rw [canonical_eq_iff.1 h, cutLast_canonicalChars, Prod.mk.injEq] at hcut
  have hpackage : package name = package other := by rw [package, package, hcut.1]
  have hsimple : canonical (simple name) = canonical (simple other) := by
    rw [canonical_eq_iff, simple, simple, String.toList_ofList, String.toList_ofList, hcut.2]
  rw [sourceUri, sourceUri, overlayUri, overlayUri, canonicalFile_source, canonicalFile_source, hpackage, hsimple]

/-- The address of a name that does not begin with a dot is read off its canonical name. -/
theorem sourceUri_eq_slotUri (hdot : name.toList.head? ≠ some '.') :
    sourceUri name = slotUri (canonical name) := by
  have hlast (y : List Char) (hy : '.' ∉ y) : replaceChar '.' '/' (canonicalChars y) = canonicalChars y :=
    replaceChar_of_notMem '/' fun h => hy (canonicalChars_subset h)
  rw [sourceUri, overlayUri, canonicalFile_source, slotUri, toPath, ← String.toList_inj]
  by_cases hmem : '.' ∈ name.toList
  · obtain ⟨x, y, heq, hy⟩ := exists_last_of_mem hmem
    -- a package without a name would make the name begin with its dot
    have hx : x ≠ [] := by
      rintro rfl
      exact hdot (by rw [heq]; rfl)
    have hpackage : package name = String.ofList x := by rw [package, heq, cutLast_append hy]
    have hsimple : simple name = String.ofList y := by rw [simple, heq, cutLast_append hy]
    have hx' : replaceChar '.' '/' x ≠ [] := by simpa [replaceChar] using hx
    have hpath : replaceChar '.' '/' (x ++ '.' :: canonicalChars y) =
        replaceChar '.' '/' x ++ '/' :: canonicalChars y := by
      rw [replaceChar, List.map_append, List.map_cons, if_pos rfl]
      exact congrArg (replaceChar '.' '/' x ++ '/' :: ·) (hlast y hy)
    simp [replaceIn, heq, hpackage, hsimple, canonicalChars_dot, hpath, hx']
  · have hpackage : package name = "" := by rw [package, cutLast_of_notMem hmem]
    have hsimple : simple name = name := by rw [simple, cutLast_of_notMem hmem, String.ofList_toList]
    have hempty : replaceChar '.' '/' [] = [] := rfl
    simp [hpackage, hsimple, replaceIn, hlast _ hmem, hempty]

/-- Names without slashes are told apart by the addresses that belong to them. -/
theorem slotUri_inj (hname : '/' ∉ name.toList) (hother : '/' ∉ other.toList)
    (h : slotUri name = slotUri other) : name = other := by
  rw [← String.toList_inj] at h ⊢
  simp only [slotUri, String.toList_append, toList_toPath, List.append_assoc, List.append_cancel_left_eq] at h
  have hpath : replaceChar '.' '/' name.toList = replaceChar '.' '/' other.toList := List.append_cancel_right h
  calc name.toList = replaceChar '/' '.' (replaceChar '.' '/' name.toList) := (replaceChar_replaceChar hname).symm
    _ = replaceChar '/' '.' (replaceChar '.' '/' other.toList) := by rw [hpath]
    _ = other.toList := replaceChar_replaceChar hother

/-- The names of units that have an address of their own: names without slashes, and without a dot at the start. -/
structure HasOwnAddress (name : String) : Prop where
  slash : '/' ∉ name.toList
  dot : name.toList.head? ≠ some '.'

instance (name : String) : Decidable (HasOwnAddress name) :=
  decidable_of_iff ('/' ∉ name.toList ∧ name.toList.head? ≠ some '.') ⟨fun h => ⟨h.1, h.2⟩, fun h => ⟨h.1, h.2⟩⟩

theorem HasOwnAddress.canonical (h : HasOwnAddress name) : '/' ∉ (canonical name).toList := by
  rw [toList_canonical]
  exact fun hmem => h.slash (canonicalChars_subset hmem)

/-- **Two names have one address just if they have one canonical name**, if they have no slashes and do not begin
with a dot. -/
theorem sourceUri_eq_iff (hname : HasOwnAddress name) (hother : HasOwnAddress other) :
    sourceUri name = sourceUri other ↔ canonical name = canonical other := by
  refine ⟨fun h => ?_, sourceUri_of_canonical⟩
  rw [sourceUri_eq_slotUri hname.dot, sourceUri_eq_slotUri hother.dot] at h
  exact slotUri_inj hname.canonical hother.canonical h

/-- A slash does for a dot, and so does a dot that comes first for none at all. -/
example : sourceUri "p/A" = sourceUri "p.A" ∧ sourceUri ".A" = sourceUri "A" := by decide +kernel

end UnitFoundry.UnitName
