import UnitFoundry.UnitName

/-!
# The canonical name of a canonical name

Markers that follow one another are markers as a whole, so what is left of a text without its trailing
markers ends with none. To make a name canonical twice is nevertheless more than to do it once: a final
line feed stands outside the markers, and one that the trailing markers followed becomes final when they
go. The markers before it are then trailing markers too.

* `isMarkersAfter_append` — markers after a text are markers with it just if it is one itself;
* `stripMarkers_append`, `exists_markers` — all trailing markers are taken away, and nothing else;
* `stripMarkers_stripMarkers` — nothing is left to be taken away;
* `canonical_canonical_iff` — **the names whose canonical name is its own canonical name**;
* `canonical_settled` — every name is settled after the second time;
* `canonical_of_canonical` — canonical names of one line are their own.
-/

namespace UnitFoundry.UnitName

open UnitFoundry.Text

variable {s x m n : List Char} {after : Bool} {c : Char}

/-! ## Sequences of markers -/

theorem isMarkersAfter_digit (after : Bool) (hc : isDecimal c = true) (rest : List Char) :
    isMarkersAfter after (c :: rest) = (after && isMarkersAfter true rest) := by
  have hne : c ≠ '_' := by
    rintro rfl
    exact absurd hc (by decide)
  rw [isMarkersAfter.eq_3 after c rest fun _ hc' _ => hne hc', hc, Bool.and_true]

/-- What begins a sequence of markers, unless digits of an earlier marker come first. -/
theorem isMarkersAfter_cons (hc : isDecimal c = false) {rest : List Char}
    (h : isMarkersAfter after (c :: rest) = true) :
    c = '_' ∧ ∃ tail, rest = 't' :: 's' :: tail ∧ isMarkersAfter true tail = true := by
  unfold isMarkersAfter at h
  split at h
  · rename_i heq
    cases heq
  · rename_i tail heq
    cases heq
    exact ⟨rfl, tail, rfl, h⟩
  · rename_i heq
    cases heq
    simp [hc] at h

/-- Markers begin with an underscore. -/
theorem isMarkers_cons {rest : List Char} (h : isMarkers (c :: rest) = true) :
    c = '_' ∧ ∃ tail, rest = 't' :: 's' :: tail ∧ isMarkersAfter true tail = true := by
  by_cases hc : isDecimal c = true
  · rw [isMarkers, isMarkersAfter_digit false hc] at h
    cases h
  · exact isMarkersAfter_cons (by simpa using hc) h

theorem isMarkersAfter_of_isMarkers (h : isMarkers n = true) : isMarkersAfter after n = true := by
  cases n with
  | nil => rfl
  | cons c rest =>
    obtain ⟨rfl, tail, rfl, htail⟩ := isMarkers_cons h
    exact htail

/-- Markers after a text are markers with it just if the text is a sequence of markers itself: no marker
lies across the place where they meet. -/
theorem isMarkersAfter_append (hn : isMarkers n = true) (after : Bool) (s : List Char) :
    isMarkersAfter after (s ++ n) = isMarkersAfter after s := by
  induction after, s using isMarkersAfter.induct with
  | case1 after => exact isMarkersAfter_of_isMarkers hn
  | case2 after rest ih => exact ih
  | case3 after c rest hno ih =>
    by_cases hc : isDecimal c = true
    · rw [List.cons_append, isMarkersAfter_digit after hc, isMarkersAfter_digit after hc, ih]
    replace hc : isDecimal c = false := by simpa using hc
    have hself : isMarkersAfter after (c :: rest) ≠ true := by
      intro h
      obtain ⟨rfl, tail, rfl, -⟩ := isMarkersAfter_cons hc h
      exact hno tail rfl rfl
    -- a marker that begins in the text and ends in the markers would make them begin in its middle
    have hboth : isMarkersAfter after (c :: (rest ++ n)) ≠ true := by
      intro h
      obtain ⟨rfl, tail, heq, -⟩ := isMarkersAfter_cons hc h
      match rest, n, heq, hn with
      | [], _ :: _, heq, hn =>
        obtain ⟨rfl, -⟩ := isMarkers_cons hn
        simp at heq
      | [_], _ :: _, heq, hn =>
        obtain ⟨rfl, -⟩ := isMarkers_cons hn
        simp at heq
      | _ :: _ :: rest, _, heq, _ =>
        simp only [List.cons_append, List.cons.injEq] at heq
        exact hno rest rfl (by rw [heq.1, heq.2.1])
    rw [List.cons_append, Bool.eq_false_iff.2 hboth, Bool.eq_false_iff.2 hself]

/-- Markers have no characters but those of `_ts` and digits. -/
theorem notMem_of_isMarkersAfter {d : Char} (hmarker : d ∉ ['_', 't', 's']) (hdigit : isDecimal d = false)
    {after : Bool} {s : List Char} (h : isMarkersAfter after s = true) : d ∉ s := by
  induction after, s using isMarkersAfter.induct with
  | case1 after => exact List.not_mem_nil
  | case2 after rest ih =>
    have hrest : d ∉ rest := ih h
    simpa [hrest, and_assoc] using hmarker
  | case3 after c rest hno ih =>
    by_cases hc : isDecimal c = true
    · rw [isMarkersAfter_digit after hc, Bool.and_eq_true] at h
      intro hmem
      rcases List.mem_cons.1 hmem with rfl | hmem
      · cases hc.symm.trans hdigit
      · exact ih h.2 hmem
    · obtain ⟨rfl, tail, rfl, -⟩ := isMarkersAfter_cons (by simpa using hc) h
      exact (hno tail rfl rfl).elim

/-- Markers stand on one line. -/
theorem break_notMem_of_isMarkersAfter {after : Bool} {s : List Char}
    (h : isMarkersAfter after s = true) : '\n' ∉ s :=
  notMem_of_isMarkersAfter (by decide) (by decide) h

/-- Trailing markers, if there are any, do not end with a line feed. -/
theorem append_ne_break (hm : isMarkers m = true) (hne : m ≠ []) (x y : List Char) :
    x ++ m ≠ y ++ ['\n'] := by
  intro heq
  have hlast : (x ++ m).getLast? = some '\n' := by simp [heq]
  obtain ⟨c, hc⟩ := Option.isSome_iff_exists.1 (List.getLast?_isSome.2 hne)
  rw [List.getLast?_append, hc, Option.some_or, Option.some.injEq] at hlast
  exact break_notMem_of_isMarkersAfter hm (hlast ▸ List.mem_of_getLast? hc)

/-! ## Texts without their trailing markers -/

theorem stripMarkers_of_isMarkers (h : isMarkers n = true) : stripMarkers n = [] := by
  cases n with
  | nil => rfl
  | cons c rest => rw [stripMarkers, if_pos h]

/-- Trailing markers make no difference. -/
theorem stripMarkers_append (hn : isMarkers n = true) (x : List Char) :
    stripMarkers (x ++ n) = stripMarkers x := by
  induction x with
  | nil => exact stripMarkers_of_isMarkers hn
  | cons c rest ih =>
    have hsame : isMarkers (c :: (rest ++ n)) = isMarkers (c :: rest) :=
      isMarkersAfter_append hn false (c :: rest)
    rw [List.cons_append, stripMarkers, stripMarkers, hsame, ih]

/-- What is taken away from a text are markers at its end. -/
theorem exists_markers (s : List Char) : ∃ m, isMarkers m = true ∧ s = stripMarkers s ++ m := by
  induction s with
  | nil => exact ⟨[], rfl, rfl⟩
  | cons c rest ih =>
    by_cases h : isMarkers (c :: rest) = true
    · exact ⟨c :: rest, h, by rw [stripMarkers_of_isMarkers h]; rfl⟩
    · obtain ⟨m, hm, heq⟩ := ih
      refine ⟨m, hm, ?_⟩
      rw [stripMarkers, if_neg h, List.cons_append, ← heq]

/-- Nothing is left to be taken away. -/
theorem stripMarkers_stripMarkers (s : List Char) :
    stripMarkers (stripMarkers s) = stripMarkers s := by
  obtain ⟨m, hm, heq⟩ := exists_markers s
  calc stripMarkers (stripMarkers s)
      = stripMarkers (stripMarkers s ++ m) := (stripMarkers_append hm _).symm
    _ = stripMarkers s := by rw [← heq]

/-- The texts that lose something are those that end with markers. -/
theorem stripMarkers_ne_self_iff :
    stripMarkers s ≠ s ↔ ∃ x m, isMarkers m = true ∧ m ≠ [] ∧ s = x ++ m := by
  constructor
  · intro hne
    obtain ⟨m, hm, heq⟩ := exists_markers s
    refine ⟨stripMarkers s, m, hm, ?_, heq⟩
    rintro rfl
    exact hne (by simpa using heq.symm)
  · rintro ⟨x, m, hm, hne, rfl⟩ hself
    obtain ⟨k, -, hk⟩ := exists_markers x
    have hlength := congrArg List.length hself
    rw [stripMarkers_append hm] at hlength
    have hk' := congrArg List.length hk
    have hpos := List.length_pos_iff.2 hne
    simp only [List.length_append] at hlength hk'
    omega

theorem stripMarkers_break (x : List Char) : stripMarkers (x ++ ['\n']) = x ++ ['\n'] := by
  refine Decidable.byContradiction fun hne => ?_
  obtain ⟨y, m, hm, hm', heq⟩ := stripMarkers_ne_self_iff.1 hne
  exact append_ne_break hm hm' y x heq.symm

/-! ## Final line feeds -/

theorem canonicalChars_break (x : List Char) :
    canonicalChars (x ++ ['\n']) = stripMarkers x ++ ['\n'] := by
  simp [canonicalChars, cutFinalBreak, dropSuffix?, dropStart?]

theorem canonicalChars_of_ne_break (h : ∀ x, s ≠ x ++ ['\n']) : canonicalChars s = stripMarkers s := by
  have hcut : cutFinalBreak s = (s, []) := by
    rcases List.eq_nil_or_concat s with rfl | ⟨x, c, rfl⟩
    · rfl
    · have hc : '\n' ≠ c := by
        rintro rfl
        exact h x (List.concat_eq_append ..)
      simp [cutFinalBreak, dropSuffix?, dropStart?, hc]
  simp [canonicalChars, hcut]

/-- A text in which markers come before a line feed as well as after it, at its end. -/
def BreaksMarkers (s : List Char) : Prop :=
  ∃ stem markers more, isMarkers markers = true ∧ markers ≠ [] ∧ isMarkers more = true ∧ more ≠ [] ∧
    s = stem ++ markers ++ '\n' :: more

theorem canonicalChars_canonicalChars_iff :
    canonicalChars (canonicalChars s) = canonicalChars s ↔ ¬ BreaksMarkers s := by
  constructor
  · rintro hsame ⟨stem, markers, more, hmarkers, hne, hmore, hne', rfl⟩
    have hsplit : stem ++ markers ++ '\n' :: more = (stem ++ markers ++ ['\n']) ++ more := by simp
    have honce : canonicalChars (stem ++ markers ++ '\n' :: more) = stem ++ markers ++ ['\n'] := by
      rw [hsplit, canonicalChars_of_ne_break (append_ne_break hmore hne' _),
        stripMarkers_append hmore, stripMarkers_break]
    rw [honce, canonicalChars_break, List.append_left_inj] at hsame
    exact stripMarkers_ne_self_iff.2 ⟨stem, markers, hmarkers, hne, rfl⟩ hsame
  · intro hno
    by_cases hbreak : ∃ x, s = x ++ ['\n']
    · obtain ⟨x, rfl⟩ := hbreak
      rw [canonicalChars_break, canonicalChars_break, stripMarkers_stripMarkers]
    replace hbreak : ∀ x, s ≠ x ++ ['\n'] := by simpa using hbreak
    rw [canonicalChars_of_ne_break hbreak]
    by_cases hleft : ∃ x, stripMarkers s = x ++ ['\n']
    · obtain ⟨x, hx⟩ := hleft
      rw [hx, canonicalChars_break, List.append_left_inj]
      refine Decidable.byContradiction fun hne => ?_
      obtain ⟨stem, markers, hmarkers, hne', rfl⟩ := stripMarkers_ne_self_iff.1 hne
      obtain ⟨more, hmore, heq⟩ := exists_markers s
      rw [hx] at heq
      refine hno ⟨stem, markers, more, hmarkers, hne', hmore, ?_, by simpa using heq⟩
      rintro rfl
      exact hbreak (stem ++ markers) (by simpa using heq)
    · rw [canonicalChars_of_ne_break (by simpa using hleft), stripMarkers_stripMarkers]

/-- A text that breaks its markers loses those after the line feed first. -/
theorem BreaksMarkers.canonicalChars_eq (h : BreaksMarkers s) :
    ∃ x, canonicalChars s = x ++ ['\n'] := by
  obtain ⟨stem, markers, more, -, -, hmore, hne, rfl⟩ := h
  have hsplit : stem ++ markers ++ '\n' :: more = (stem ++ markers ++ ['\n']) ++ more := by simp
  refine ⟨stem ++ markers, ?_⟩
  rw [hsplit, canonicalChars_of_ne_break (append_ne_break hmore hne _), stripMarkers_append hmore,
    stripMarkers_break]

/-! ## Canonical names -/

theorem canonical_eq_iff {name other : String} :
    canonical name = canonical other ↔ canonicalChars name.toList = canonicalChars other.toList :=
  String.ofList_inj

@[simp] theorem toList_canonical (name : String) : (canonical name).toList = canonicalChars name.toList := by
  simp [canonical]

/-- **The canonical name of a canonical name.** It is this name itself, but for the names whose trailing
markers follow a line feed that follows markers. -/
theorem canonical_canonical_iff (name : String) :
    canonical (canonical name) = canonical name ↔ ¬ BreaksMarkers name.toList := by
  rw [canonical_eq_iff, toList_canonical]
  exact canonicalChars_canonicalChars_iff

/-- A line feed between markers: the first time it keeps the markers before it, the second time it does
not. -/
theorem canonical_canonical_ne :
    canonical "a_ts1\n_ts2" = "a_ts1\n" ∧ canonical "a_ts1\n" = "a\n" := by decide +kernel

/-- Whatever the name, the second time settles it. -/
theorem canonical_settled (name : String) :
    canonical (canonical (canonical name)) = canonical (canonical name) := by
  by_cases h : BreaksMarkers name.toList
  · obtain ⟨x, hx⟩ := h.canonicalChars_eq
    rw [canonical_eq_iff, toList_canonical, toList_canonical, hx, canonicalChars_break,
      canonicalChars_break, stripMarkers_stripMarkers]
  · rw [(canonical_canonical_iff name).2 h, (canonical_canonical_iff name).2 h]

/-- The canonical name of a name that consists of one line does so as well. -/
theorem break_notMem_canonical {name : String} (h : '\n' ∉ name.toList) :
    '\n' ∉ (canonical name).toList := by
  have hbreak : ∀ x, name.toList ≠ x ++ ['\n'] := by
    rintro x heq
    simp [heq] at h
  obtain ⟨m, -, heq⟩ := exists_markers name.toList
  rw [toList_canonical, canonicalChars_of_ne_break hbreak]
  intro hmem
  rw [heq] at h
  exact h (List.mem_append_left _ hmem)

/-- Canonical names that consist of one line are their own. -/
theorem canonical_of_canonical {name : String} (h : '\n' ∉ (canonical name).toList) :
    canonical (canonical name) = canonical name := by
  rw [canonical_eq_iff, toList_canonical, canonicalChars_canonicalChars_iff]
  intro hbreaks
  obtain ⟨x, hx⟩ := hbreaks.canonicalChars_eq
  simp [hx] at h

end UnitFoundry.UnitName
