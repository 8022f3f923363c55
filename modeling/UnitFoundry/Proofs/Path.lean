import UnitFoundry.Path
import UnitFoundry.Proofs.Pieces

/-!
# Paths and their components

A relative path is written with slashes between its components. What is written in this way is read as the same
components again, as long as none of them is empty, has a slash in it, or is one of the two names that stand for
other directories.

* `Path.IsComponent` — the names that files and directories can have;
* `Path.slashed`, `ofString_slashed` — **components written and read**;
* `append_slashed` — a path extended by components;
* `mem_parts_ofString`, `slashes_ofString` — what is read from any text;
* `slashed_inj`, `slashed_eq_append_iff` — what can be told from the written form;
* `Path.IsPart`, `Path.dotted` — the parts of packages and of the names of units, and how they are written.
-/

namespace UnitFoundry

open Text

namespace Path

variable {p : Path} {c : String} {parts others : List String}

/-! ## Components -/

/-- The names that a file or a directory can have. -/
structure IsComponent (c : String) : Prop where
  ne_empty : c ≠ ""
  ne_here : c ≠ "."
  ne_above : c ≠ ".."
  slash : '/' ∉ c.toList
  null : '\x00' ∉ c.toList

instance (c : String) : Decidable (IsComponent c) :=
  decidable_of_iff (c ≠ "" ∧ c ≠ "." ∧ c ≠ ".." ∧ '/' ∉ c.toList ∧ '\x00' ∉ c.toList)
    ⟨fun ⟨he, hh, ha, hs, hn⟩ => ⟨he, hh, ha, hs, hn⟩, fun ⟨he, hh, ha, hs, hn⟩ => ⟨he, hh, ha, hs, hn⟩⟩

/-- Components with a slash between neighbours. -/
def slashed (parts : List String) : String := "/".intercalate parts

theorem toList_slashed (parts : List String) :
    (slashed parts).toList = joinWith '/' (parts.map String.toList) := by
  rw [slashed, String.toList_intercalate, joinWith_eq_intercalate]
  rfl

theorem slashed_nil : slashed [] = "" := rfl

/-- The components of a path that leads down from a directory. -/
def IsRelative (parts : List String) : Prop := parts ≠ [] ∧ ∀ c ∈ parts, IsComponent c

instance (parts : List String) : Decidable (IsRelative parts) := instDecidableAnd

/-- Components do not get shorter by more of them. -/
theorem utf8ByteSize_slashed_append (parts more : List String) :
    (slashed parts).utf8ByteSize ≤ (slashed (parts ++ more)).utf8ByteSize := by
  by_cases hparts : parts = []
  · subst hparts
    exact Nat.zero_le _
  by_cases hmore : more = []
  · rw [hmore, List.append_nil]
  · rw [slashed, slashed, String.intercalate_append_of_ne_nil hparts hmore, String.append_assoc,
      String.utf8ByteSize_append]
    exact Nat.le_add_right _ _

theorem splitOn_slashed (h : IsRelative parts) : splitOn '/' (slashed parts).toList = parts.map String.toList := by
  rw [toList_slashed, splitOn_joinWith (by simpa using h.1) (by simpa using fun c hc => (h.2 c hc).slash)]

/-- Files are not written like directories. -/
theorem endsWith_slashed (h : IsRelative parts) : endsWith (slashed parts) "/" = false := by
  rw [Bool.eq_false_iff]
  intro hends
  obtain ⟨rest, hrest⟩ := endsWith_iff.1 hends
  have hsplit := splitOn_slashed h
  rw [hrest, show "/".toList = ['/'] from rfl, splitOn_append] at hsplit
  have hempty : [] ∈ parts.map String.toList := hsplit ▸ List.mem_append_right _ (by simp [splitOn])
  obtain ⟨c, hc, hnil⟩ := List.mem_map.1 hempty
  exact (h.2 c hc).ne_empty (String.toList_inj.1 hnil)

/-- **A path is written with the components of a package at its start** exactly if it has them at its start. -/
theorem slashed_eq_append_iff {package : List String} (hpackage : IsRelative package) (hparts : IsRelative parts)
    {rest : List Char} : (slashed parts).toList = (slashed package).toList ++ '/' :: rest ↔
      ∃ more, more ≠ [] ∧ parts = package ++ more ∧ rest = (slashed more).toList := by
  constructor
  · intro h
    have hsplit := splitOn_slashed hparts
    rw [h, splitOn_append, splitOn_slashed hpackage] at hsplit
    obtain ⟨more, hmore, hrest⟩ : ∃ more, parts = package ++ more ∧ splitOn '/' rest = more.map String.toList := by
      obtain ⟨first, more, hparts, hfirst, hmore⟩ := List.map_eq_append_iff.1 hsplit.symm
      obtain rfl := List.map_injective_iff.2 (fun _ _ => String.toList_inj.1) hfirst
      exact ⟨more, hparts, hmore.symm⟩
    refine ⟨more, ?_, hmore, ?_⟩
    · rintro rfl
      obtain ⟨pieces, hpieces⟩ := exists_splitOn '/' rest
      simp [hpieces] at hrest
    · rw [toList_slashed, ← hrest, joinWith_splitOn]
  · rintro ⟨more, hmore, rfl, rfl⟩
    rw [toList_slashed, List.map_append, joinWith_append (by simpa using hpackage.1) (by simpa using hmore),
      toList_slashed, toList_slashed]

/-- A single component is what has no slash in it. -/
theorem slash_mem_slashed (h : IsRelative parts) : '/' ∈ (slashed parts).toList ↔ parts.length ≠ 1 := by
  rw [mem_iff_length_splitOn, splitOn_slashed h, List.length_map]

/-- The components of a path that is written out. -/
theorem pieces_slashed (hne : parts ≠ []) (h : ∀ c ∈ parts, '/' ∉ c.toList) :
    pieces '/' (slashed parts) = parts := by
  rw [pieces, toList_slashed, splitOn_joinWith (by simpa using hne) (by simpa using h), List.map_map]
  exact List.map_id'' (fun c => String.ofList_toList) parts

/-- Different components are written differently. -/
theorem slashed_inj (hparts : ∀ c ∈ parts, IsComponent c) (hothers : ∀ c ∈ others, IsComponent c) :
    slashed parts = slashed others ↔ parts = others := by
  refine ⟨fun h => ?_, congrArg _⟩
  have hempty {l : List String} (hl : ∀ c ∈ l, IsComponent c) (hslashed : pieces '/' (slashed l) = [""]) :
      l = [] := by
    by_contra hne
    rw [pieces_slashed hne fun c hc => (hl c hc).slash] at hslashed
    exact (hl "" (by simp [hslashed])).ne_empty rfl
  by_cases hp : parts = []
  · subst hp
    exact (hempty hothers (h ▸ rfl)).symm
  by_cases ho : others = []
  · subst ho
    exact hempty hparts (h ▸ rfl)
  rw [← pieces_slashed hp fun c hc => (hparts c hc).slash, h,
    pieces_slashed ho fun c hc => (hothers c hc).slash]

/-- The first character of a written path. -/
theorem head?_slashed (h : ∀ c ∈ parts, IsComponent c) : (slashed parts).toList.head? ≠ some '/' := by
  cases parts with
  | nil => simp [slashed]
  | cons c rest =>
    obtain ⟨hempty, -, -, hslash, -⟩ := h c (by simp)
    have hne : c.toList ≠ [] := fun hnil => hempty (by rw [← String.ofList_toList (s := c), hnil])
    obtain ⟨d, tail, hd⟩ := List.exists_cons_of_ne_nil hne
    have hhead : (slashed (c :: rest)).toList.head? = some d := by
      rw [toList_slashed, List.map_cons, hd]
      cases rest <;> rfl
    rw [hhead]
    rintro ⟨⟩
    exact hslash (by simp [hd])

theorem dropWhile_slashed (h : ∀ c ∈ parts, IsComponent c) :
    (slashed parts).toList.dropWhile (· = '/') = (slashed parts).toList := by
  have hhead := head?_slashed h
  cases hs : (slashed parts).toList with
  | nil => rfl
  | cons d rest =>
    rw [hs] at hhead
    have hd : d ≠ '/' := fun heq => hhead (by rw [heq]; rfl)
    simp [hd]

/-- The slashes before a path that is written out can be told from it. -/
theorem dropWhile_append_slashed (h : ∀ c ∈ parts, IsComponent c) (n : Nat) :
    (List.replicate n '/' ++ (slashed parts).toList).dropWhile (· = '/') = (slashed parts).toList := by
  induction n with
  | zero => exact dropWhile_slashed h
  | succ n ih => simpa [List.replicate_succ] using ih

/-- **Components that are written are read again.** -/
theorem ofString_slashed (h : ∀ c ∈ parts, IsComponent c) : ofString (slashed parts) = ⟨0, parts⟩ := by
  have hleading : (slashed parts).toList.takeWhile (· = '/') = [] := by
    have hhead := head?_slashed h
    cases hs : (slashed parts).toList with
    | nil => rfl
    | cons d rest =>
      rw [hs] at hhead
      have hd : d ≠ '/' := fun heq => hhead (by rw [heq]; rfl)
      simp [hd]
  have hparts : ((pieces '/' (slashed parts)).filter fun part => !part.isEmpty && part != ".") = parts := by
    by_cases hne : parts = []
    · subst hne
      rfl
    · rw [pieces_slashed hne fun c hc => (h c hc).slash, List.filter_eq_self]
      intro c hc
      have hempty : c.isEmpty = false := by
        simpa [String.isEmpty_iff] using (h c hc).ne_empty
      simp [hempty, (h c hc).ne_here]
  simp only [ofString, hleading, hparts]
  rfl

/-! ## Any texts -/

/-- The components of a path are pieces of its text. -/
theorem mem_parts_ofString {s : String} : c ∈ (ofString s).parts ↔ c ∈ pieces '/' s ∧ c ≠ "" ∧ c ≠ "." := by
  simp [ofString, List.mem_filter]

/-- There is no slash in a component. -/
theorem slash_notMem_of_mem_parts {s : String} (h : c ∈ (ofString s).parts) : '/' ∉ c.toList := by
  obtain ⟨piece, hpiece, rfl⟩ := List.mem_map.1 (mem_parts_ofString.1 h).1
  rw [String.toList_ofList]
  exact notMem_of_mem_splitOn hpiece

/-- A path is relative exactly if its text does not begin with a slash. -/
theorem slashes_ofString_eq_zero {s : String} : (ofString s).slashes = 0 ↔ s.toList.head? ≠ some '/' := by
  have hlength : (s.toList.takeWhile (· = '/')).length = 0 ↔ s.toList.head? ≠ some '/' := by
    cases s.toList with
    | nil => simp
    | cons d rest => by_cases hd : d = '/' <;> simp [hd]
  rw [← hlength, ofString]
  dsimp only
  split
  · omega
  · omega

theorem slashes_ofString {s : String} (h : s.toList.head? ≠ some '/') : (ofString s).slashes = 0 :=
  slashes_ofString_eq_zero.2 h

/-- A text that is a single component. -/
theorem ofString_component (hslash : '/' ∉ c.toList) (hempty : c ≠ "") (hhere : c ≠ ".") : ofString c = ⟨0, [c]⟩ := by
  have hhead : c.toList.head? ≠ some '/' := fun h => hslash (List.mem_of_head? h)
  have hpieces : pieces '/' c = [c] := by
    rw [pieces, splitOn_of_notMem hslash]
    simp [String.ofList_toList]
  have hparts : (ofString c).parts = [c] := by
    have hlong : c.isEmpty = false := by simpa [String.isEmpty_iff] using hempty
    simp [ofString, hpieces, hlong, hhere]
  rw [← hparts, ← slashes_ofString hhead]

/-- A path extended by components. -/
theorem append_slashed (p : Path) (h : ∀ c ∈ parts, IsComponent c) :
    p.append (slashed parts) = { p with parts := p.parts ++ parts } := by
  rw [append, ofString_slashed h]
  rfl

/-! ## Packages -/

/-- The names that packages can have. -/
structure IsPart (c : String) : Prop where
  ne_empty : c ≠ ""
  dot : '.' ∉ c.toList
  slash : '/' ∉ c.toList
  null : '\x00' ∉ c.toList

instance (c : String) : Decidable (IsPart c) :=
  decidable_of_iff (c ≠ "" ∧ '.' ∉ c.toList ∧ '/' ∉ c.toList ∧ '\x00' ∉ c.toList)
    ⟨fun ⟨he, hd, hs, hn⟩ => ⟨he, hd, hs, hn⟩, fun ⟨he, hd, hs, hn⟩ => ⟨he, hd, hs, hn⟩⟩

theorem IsPart.isComponent {c : String} (h : IsPart c) : IsComponent c where
  ne_empty := h.ne_empty
  ne_here := by
    rintro rfl
    exact h.dot (by decide)
  ne_above := by
    rintro rfl
    exact h.dot (by decide)
  slash := h.slash
  null := h.null

theorem isPart_replicate {b : Char} (n : Nat) (hdot : b ≠ '.') (hslash : b ≠ '/') (hnull : b ≠ '\x00') :
    IsPart (String.ofList (List.replicate (n + 1) b)) where
  ne_empty := by
    rw [ne_eq, ← String.toList_inj, String.toList_ofList]
    exact nofun
  dot := by simpa [List.mem_replicate] using Ne.symm hdot
  slash := by simpa [List.mem_replicate] using Ne.symm hslash
  null := by simpa [List.mem_replicate] using Ne.symm hnull

/-- A package, with dots between its parts. -/
def dotted (package : List String) : String := ".".intercalate package

theorem dotted_singleton (c : String) : dotted [c] = c := rfl

/-- The directory of a package. -/
theorem replaceIn_dotted {package : List String} (h : ∀ c ∈ package, IsPart c) :
    replaceIn '.' '/' (dotted package) = slashed package := by
  have hparts : ∀ c ∈ package.map String.toList, '.' ∉ c := by simpa using fun c hc => (h c hc).dot
  rw [← String.toList_inj, toList_slashed, replaceIn, String.toList_ofList, dotted, String.toList_intercalate,
    ← replaceChar_joinWith hparts, joinWith_eq_intercalate]
  rfl

end Path

end UnitFoundry
