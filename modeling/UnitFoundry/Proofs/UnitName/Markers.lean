import UnitFoundry.Proofs.UnitName
import UnitFoundry.Proofs.Pattern

/-!
# What a canonical name leaves out

A generation marker is `_ts` with any number of decimal digits, of any script. A text splits in one way only into
a part that does not end with a marker and the markers after it, since no marker begins in one and ends in the
other. The canonical name is the first part of the name before its final line feed, and this is also what is left
when the pattern "markers, then the end" is erased from left to right.

* `isMarkers_iff` — sequences of markers, marker by marker;
* `splits_iff` — the one way in which a text splits;
* `mem_rests_trailingMarkers`, `erase_trailingMarkers` — what the pattern matches and what it leaves;
* `canonical_splits` — **the canonical name is the name without the markers at its end**.
-/

namespace UnitFoundry.UnitName

open UnitFoundry.Text

variable {s r m k digits after : List Char} {c : Char}

/-! ## Markers -/

/-- One generation marker. -/
def IsMarker (m : List Char) : Prop :=
  ∃ digits : List Char, m = '_' :: 't' :: 's' :: digits ∧ ∀ c ∈ digits, isDecimal c = true

/-- Generation markers, one after the other. -/
def AreMarkers (m : List Char) : Prop :=
  ∃ markers : List (List Char), (∀ k ∈ markers, IsMarker k) ∧ m = markers.flatten

theorem IsMarker.ne_nil (h : IsMarker m) : m ≠ [] := by
  obtain ⟨digits, rfl, -⟩ := h
  exact List.cons_ne_nil _ _

theorem isMarkersAfter_digits (h : ∀ c ∈ digits, isDecimal c = true) (rest : List Char) :
    isMarkersAfter true (digits ++ rest) = isMarkersAfter true rest := by
  induction digits with
  | nil => rfl
  | cons c digits ih =>
    have hc : isDecimal c = true := h c List.mem_cons_self
    rw [List.cons_append, isMarkersAfter_digit true hc, Bool.true_and]
    exact ih fun d hd => h d (List.mem_cons_of_mem _ hd)

theorem AreMarkers.isMarkers (h : AreMarkers m) : isMarkers m = true := by
  obtain ⟨markers, hmarkers, rfl⟩ := h
  induction markers with
  | nil => rfl
  | cons k markers ih =>
    obtain ⟨digits, rfl, hdigits⟩ := hmarkers k List.mem_cons_self
    have hrest : UnitName.isMarkers markers.flatten = true :=
      ih fun l hl => hmarkers l (List.mem_cons_of_mem _ hl)
    calc isMarkersAfter true (digits ++ markers.flatten)
        = isMarkersAfter true markers.flatten := isMarkersAfter_digits hdigits _
      _ = true := isMarkersAfter_of_isMarkers hrest

/-- Markers that are read are whole markers, but for digits of an earlier marker that come first. -/
theorem exists_digits_of_isMarkersAfter (after : Bool) (h : isMarkersAfter after s = true) :
    ∃ digits rest, (∀ c ∈ digits, isDecimal c = true) ∧ (after = false → digits = []) ∧
      AreMarkers rest ∧ s = digits ++ rest := by
  induction after, s using isMarkersAfter.induct with
  | case1 after => exact ⟨[], [], by simp, fun _ => rfl, ⟨[], by simp, rfl⟩, rfl⟩
  | case2 after rest ih =>
    obtain ⟨digits, _, hdigits, -, ⟨markers, hmarkers, rfl⟩, rfl⟩ := ih h
    refine ⟨[], _, by simp, fun _ => rfl, ⟨('_' :: 't' :: 's' :: digits) :: markers, ?_, rfl⟩, rfl⟩
    intro k hk
    rcases List.mem_cons.1 hk with rfl | hk
    · exact ⟨digits, rfl, hdigits⟩
    · exact hmarkers k hk
  | case3 after c rest hno ih =>
    by_cases hc : isDecimal c = true
    · rw [isMarkersAfter_digit after hc, Bool.and_eq_true] at h
      obtain ⟨digits, more, hdigits, -, hmore, rfl⟩ := ih h.2
      refine ⟨c :: digits, more, by simpa [hc] using hdigits, ?_, hmore, rfl⟩
      intro hafter
      simp [hafter] at h
    · obtain ⟨rfl, tail, rfl, -⟩ := isMarkersAfter_cons (by simpa using hc) h
      exact (hno tail rfl rfl).elim

/-- **Sequences of markers.** Each of them begins with `_ts`, and only decimal digits follow. -/
theorem isMarkers_iff : isMarkers m = true ↔ AreMarkers m := by
  constructor
  · intro h
    obtain ⟨digits, rest, -, hnil, hrest, rfl⟩ := exists_digits_of_isMarkersAfter false h
    rwa [hnil rfl, List.nil_append]
  · exact AreMarkers.isMarkers

/-! ## Splitting a text -/

/-- A text split into markers at its end and what comes before them. -/
structure Splits (s r m : List Char) : Prop where
  /-- The two parts make up the text. -/
  eq : s = r ++ m
  /-- The second part consists of markers. -/
  markers : AreMarkers m
  /-- The first part does not end with a marker. -/
  unmarked : ∀ k, IsMarker k → ¬ k <:+ r

/-- Texts that do not end with a marker are those that lose nothing. -/
theorem stripMarkers_eq_self_iff : stripMarkers r = r ↔ ∀ k, IsMarker k → ¬ k <:+ r := by
  constructor
  · rintro hself k hk ⟨x, rfl⟩
    have hmarkers : isMarkers k = true := AreMarkers.isMarkers ⟨[k], by simpa using hk, by simp⟩
    exact stripMarkers_ne_self_iff.2 ⟨x, k, hmarkers, hk.ne_nil, rfl⟩ hself
  · intro hlast
    refine Decidable.byContradiction fun hne => ?_
    obtain ⟨x, m, hm, hm', rfl⟩ := stripMarkers_ne_self_iff.1 hne
    obtain ⟨markers, hmarkers, rfl⟩ := isMarkers_iff.1 hm
    obtain ⟨earlier, k, rfl⟩ : ∃ earlier k, markers = earlier ++ [k] := by
      rcases List.eq_nil_or_concat markers with rfl | ⟨earlier, k, rfl⟩
      · exact absurd rfl hm'
      · exact ⟨earlier, k, List.concat_eq_append ..⟩
    refine hlast k (hmarkers k (by simp)) ⟨x ++ earlier.flatten, ?_⟩
    simp

/-- There is one way to split a text. -/
theorem splits_iff : Splits s r m ↔ r = stripMarkers s ∧ s = r ++ m := by
  constructor
  · intro h
    have hr : stripMarkers r = r := stripMarkers_eq_self_iff.2 h.unmarked
    refine ⟨?_, h.eq⟩
    rw [h.eq, stripMarkers_append h.markers.isMarkers, hr]
  · rintro ⟨rfl, heq⟩
    obtain ⟨n, hn, heq'⟩ := exists_markers s
    obtain rfl : n = m := List.append_cancel_left (heq'.symm.trans heq)
    exact ⟨heq, isMarkers_iff.1 hn, stripMarkers_eq_self_iff.1 (stripMarkers_stripMarkers s)⟩

/-! ## Erasing markers -/

/-- One marker. -/
def markerPattern : Pattern := (Pattern.word '_' ['t', 's']).andThen (Pattern.one isDecimal).many

/-- One or more markers, and then the end. -/
def trailingMarkers : Pattern := markerPattern.oneOrMore.andThen .atEnd

theorem reads_markerPattern : markerPattern.Reads IsMarker := by
  refine ((Pattern.reads_word _ _).andThen (Pattern.reads_many_one isDecimal)).congr fun m => ?_
  constructor
  · rintro ⟨_, digits, rfl, hdigits, rfl⟩
    exact ⟨digits, rfl, hdigits⟩
  · rintro ⟨digits, rfl, hdigits⟩
    exact ⟨_, digits, rfl, hdigits, rfl⟩

/-- The pattern matches where only markers are left, up to a final line feed. -/
theorem mem_rests_trailingMarkers :
    after ∈ trailingMarkers.rests s ↔
      (after = [] ∨ after = ['\n']) ∧ ∃ m, isMarkers m = true ∧ m ≠ [] ∧ s = m ++ after := by
  have hreads := reads_markerPattern.oneOrMore fun h => h.ne_nil rfl
  rw [trailingMarkers, hreads.mem_atEnd]
  refine and_congr_right fun _ => exists_congr fun m => ?_
  rw [isMarkers_iff, ← and_assoc]
  refine and_congr_left fun _ => ?_
  constructor
  · rintro ⟨markers, hne, hmarkers, rfl⟩
    refine ⟨⟨markers, hmarkers, rfl⟩, ?_⟩
    obtain ⟨k, rest, rfl⟩ := List.exists_cons_of_ne_nil hne
    have hk : k ≠ [] := (hmarkers k List.mem_cons_self).ne_nil
    simp [hk]
  · rintro ⟨⟨markers, hmarkers, rfl⟩, hne⟩
    refine ⟨markers, ?_, hmarkers, rfl⟩
    rintro rfl
    exact hne rfl

/-- What is left of markers is at most a line feed, and it stays. -/
theorem erase_trailingMarkers_rest (h : after = [] ∨ after = ['\n']) :
    trailingMarkers.erase after = after := by
  rcases h with rfl | rfl
  · rw [Pattern.erase]
  · have hno : ∀ after, after ∉ trailingMarkers.rests ['\n'] := by
      intro after hafter
      obtain ⟨-, m, hm, hne, heq⟩ := mem_rests_trailingMarkers.1 hafter
      obtain ⟨c, m, rfl⟩ := List.exists_cons_of_ne_nil hne
      obtain ⟨rfl, -⟩ := isMarkers_cons hm
      simp at heq
    rw [Pattern.erase_cons_of_none hno, Pattern.erase]

theorem canonicalChars_markers (hm : isMarkers m = true) (hne : m ≠ []) (h : after = [] ∨ after = ['\n']) :
    canonicalChars (m ++ after) = after := by
  rcases h with rfl | rfl
  · have hbreak : ∀ x, m ≠ x ++ ['\n'] := append_ne_break hm hne []
    rw [List.append_nil, canonicalChars_of_ne_break hbreak, stripMarkers_of_isMarkers hm]
  · rw [canonicalChars_break, stripMarkers_of_isMarkers hm, List.nil_append]

/-- The first character of a text stays, unless there are only markers. -/
theorem canonicalChars_cons {rest : List Char} (h : ∀ after, after ∉ trailingMarkers.rests (c :: rest)) :
    canonicalChars (c :: rest) = c :: canonicalChars rest := by
  have hno : ∀ m after, c :: rest = m ++ after → m ≠ [] → (after = [] ∨ after = ['\n']) →
      isMarkers m ≠ true := by
    intro m after heq hne hafter hm
    exact h after (mem_rests_trailingMarkers.2 ⟨hafter, m, hm, hne, heq⟩)
  by_cases hbreak : ∃ x, rest = x ++ ['\n']
  · obtain ⟨x, rfl⟩ := hbreak
    have hx : isMarkers (c :: x) ≠ true := hno (c :: x) ['\n'] rfl (by simp) (.inr rfl)
    rw [← List.cons_append, canonicalChars_break, canonicalChars_break, stripMarkers, if_neg hx,
      List.cons_append]
  replace hbreak : ∀ x, rest ≠ x ++ ['\n'] := by simpa using hbreak
  rw [canonicalChars_of_ne_break hbreak]
  by_cases hc : rest = [] ∧ c = '\n'
  · obtain ⟨rfl, rfl⟩ := hc
    exact canonicalChars_break []
  · have hall : ∀ x, c :: rest ≠ x ++ ['\n'] := by
      rintro (_ | ⟨d, x⟩) heq
      · exact hc (by simpa [and_comm] using heq)
      · exact hbreak x (List.cons.inj heq).2
    have hself : isMarkers (c :: rest) ≠ true := hno (c :: rest) [] (by simp) (by simp) (.inl rfl)
    rw [canonicalChars_of_ne_break hall, stripMarkers, if_neg hself]

/-- **Erasing the markers at the end.** From left to right, the first place where the pattern matches is where
the trailing markers begin, and nothing else is left out. -/
theorem erase_trailingMarkers (s : List Char) : trailingMarkers.erase s = canonicalChars s := by
  induction s with
  | nil => rw [Pattern.erase]; rfl
  | cons c rest ih =>
    by_cases hmatch : ∃ after, after ∈ trailingMarkers.rests (c :: rest)
    · obtain ⟨first, hfirst⟩ := hmatch
      have hlt : ∀ after ∈ trailingMarkers.rests (c :: rest), after.length ≤ rest.length := by
        intro after hafter
        obtain ⟨-, m, -, hne, heq⟩ := mem_rests_trailingMarkers.1 hafter
        have hlength := congrArg List.length heq
        have hpos := List.length_pos_iff.2 hne
        simp only [List.length_cons, List.length_append] at hlength
        omega
      obtain ⟨after, hafter, herase⟩ := Pattern.erase_cons_of_mem hfirst hlt
      obtain ⟨hend, m, hm, hne, heq⟩ := mem_rests_trailingMarkers.1 hafter
      rw [herase, erase_trailingMarkers_rest hend, heq, canonicalChars_markers hm hne hend]
    · have hno : ∀ after, after ∉ trailingMarkers.rests (c :: rest) := by simpa using hmatch
      rw [Pattern.erase_cons_of_none hno, ih, canonicalChars_cons hno]

/-! ## Canonical names -/

/-- The final line feed of a text, if it ends with one. -/
def finalBreak (s : List Char) : List Char := if s.getLast? = some '\n' then ['\n'] else []

theorem exists_body (s : List Char) :
    ∃ body, s = body ++ finalBreak s ∧ canonicalChars s = stripMarkers body ++ finalBreak s := by
  by_cases hbreak : ∃ x, s = x ++ ['\n']
  · obtain ⟨x, rfl⟩ := hbreak
    have hfinal : finalBreak (x ++ ['\n']) = ['\n'] := by simp [finalBreak]
    exact ⟨x, by rw [hfinal], by rw [hfinal, canonicalChars_break]⟩
  · have hfinal : finalBreak s = [] := by
      refine if_neg fun hlast => hbreak ?_
      obtain ⟨x, hx⟩ := List.getLast?_eq_some_iff.1 hlast
      exact ⟨x, hx⟩
    refine ⟨s, by rw [hfinal, List.append_nil], ?_⟩
    rw [hfinal, List.append_nil, canonicalChars_of_ne_break (by simpa using hbreak)]

/-- **The canonical name is the name without the markers at its end.** The name before its final line feed splits
in one way into a part that does not end with a marker and markers. The first part and the line feed are the
canonical name, and they are what is left when the pattern is erased wherever it matches. -/
theorem canonical_splits (name : String) :
    ∃ body, name.toList = body ++ finalBreak name.toList ∧
      ∃ r m, Splits body r m ∧ (∀ r' m', Splits body r' m' → r' = r ∧ m' = m) ∧
        (canonical name).toList = r ++ finalBreak name.toList ∧
        trailingMarkers.erase name.toList = r ++ finalBreak name.toList := by
  obtain ⟨body, hbody, hcanonical⟩ := exists_body name.toList
  obtain ⟨m, -, hm⟩ := exists_markers body
  refine ⟨body, hbody, stripMarkers body, m, splits_iff.2 ⟨rfl, hm⟩, ?_, ?_, ?_⟩
  · intro r' m' h
    obtain ⟨rfl, heq⟩ := splits_iff.1 h
    exact ⟨rfl, List.append_cancel_left (heq.symm.trans hm)⟩
  · rw [toList_canonical, hcanonical]
  · rw [erase_trailingMarkers, hcanonical]

/-- Digits of any script belong to a marker, and a marker within the name stays. -/
example : canonical "a_ts1_b_ts٣_ts\n" = "a_ts1_b\n" := by decide +kernel

end UnitFoundry.UnitName
