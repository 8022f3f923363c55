import UnitFoundry.Proofs.Pattern
import UnitFoundry.Proofs.Pieces
import UnitFoundry.Proofs.Policy
import UnitFoundry.Proofs.Settings
import UnitFoundry.Proofs.Text.Numeral

/-!
# Target versions that are accepted and read

A target version is accepted if it is `3.` with decimal digits of any script behind it, and at most a line feed
at its end. That is what the pattern "`3.`, one or more digits, the end" matches. The numbers are read off it in
another way: it is cut at its dots, and each piece is read as a whole number. Where the text was accepted there
is one dot, and the digits with the line feed behind them are read as the number that they spell, unless they
are too many.

* `SpellsVersion` — texts that spell a version, by the digits of its minor number;
* `ofString?_isSome_iff`, `mem_rests_versionPattern` — they are the texts that are accepted, and those that
  the pattern matches;
* `readVersion_of_spells` — the numbers of such a text;
* `ofEntries_target`, `withTarget_eq_ok` — option sets whose target version is given or changed;
* `target_accepted_and_read` — **a text is accepted just if it spells a version, and then it is read**.
-/

namespace UnitFoundry

open Text

variable {text : String} {digits after : List Char} {o : Options}

/-! ## Accepted texts -/

/-- A text that spells a version: after `3.` come the decimal digits of the minor number, and at most a line
feed. -/
structure SpellsVersion (text : String) (digits : List Char) : Prop where
  nonempty : digits ≠ []
  decimal : ∀ c ∈ digits, isDecimal c = true
  shape : text.toList = '3' :: '.' :: digits ∨ text.toList = '3' :: '.' :: (digits ++ ['\n'])

/-- The digits of the minor number, without a line feed at the end. -/
theorem minorDigits?_eq_some (h : SpellsVersion text digits) : minorDigits? text.toList = some digits := by
  rcases h.shape with hshape | hshape
  · have hnone : dropSuffix? ['\n'] digits = none := by
      by_contra hsome
      obtain ⟨before, hbefore⟩ := Option.ne_none_iff_exists'.1 hsome
      have hfeed : isDecimal '\n' = true := h.decimal '\n' (by simp [dropSuffix?_eq_some.1 hbefore])
      exact absurd hfeed (by decide)
    simp [minorDigits?, hshape, dropStart?, hnone]
  · simp [minorDigits?, hshape, dropStart?, dropSuffix?_append]

theorem shape_of_minorDigits? (h : minorDigits? text.toList = some digits) :
    text.toList = '3' :: '.' :: digits ∨ text.toList = '3' :: '.' :: (digits ++ ['\n']) := by
  obtain ⟨rest, hrest, hdigits⟩ := Option.map_eq_some_iff.1 h
  rw [dropStart?_eq_some.1 hrest]
  cases hfeed : dropSuffix? ['\n'] rest with
  | none =>
    rw [hfeed, Option.getD_none] at hdigits
    exact .inl (by rw [hdigits]; rfl)
  | some before =>
    rw [hfeed, Option.getD_some] at hdigits
    exact .inr (by rw [dropSuffix?_eq_some.1 hfeed, hdigits]; rfl)

/-- The target versions are the texts that spell one. -/
theorem ofString?_isSome_iff : (TargetVersion.ofString? text).isSome ↔ ∃ digits, SpellsVersion text digits := by
  have hvalid : (TargetVersion.ofString? text).isSome ↔ (minorVersion? text.toList).isSome = true := by
    rw [TargetVersion.ofString?]
    split
    · simp [*]
    · simp [*]
  rw [hvalid]
  constructor
  · intro h
    obtain ⟨n, hn⟩ := Option.isSome_iff_exists.1 h
    obtain ⟨digits, hdigits, hread⟩ := Option.bind_eq_some_iff.1 hn
    obtain ⟨hne, hall⟩ := readDecimal?_isSome_iff.1 (Option.isSome_of_eq_some hread)
    exact ⟨digits, hne, hall, shape_of_minorDigits? hdigits⟩
  · rintro ⟨digits, h⟩
    rw [minorVersion?, minorDigits?_eq_some h, Option.bind_some]
    exact readDecimal?_isSome_iff.2 ⟨h.nonempty, h.decimal⟩

/-- The pattern of a version. -/
def versionPattern : Pattern :=
  ((Pattern.word '3' ['.']).andThen (Pattern.one isDecimal).oneOrMore).andThen .atEnd

/-- The texts that spell a version are those that its pattern matches. -/
theorem mem_rests_versionPattern :
    (∃ after, after ∈ versionPattern.rests text.toList) ↔ ∃ digits, SpellsVersion text digits := by
  have hreads := (Pattern.reads_word '3' ['.']).andThen ((Pattern.reads_one isDecimal).oneOrMore (by simp))
  simp only [versionPattern, hreads.mem_atEnd]
  constructor
  · rintro ⟨after, hend, _, ⟨_, _, rfl, ⟨ms, hne, hms, rfl⟩, rfl⟩, hshape⟩
    refine ⟨ms.flatten, ?_, ?_, ?_⟩
    · obtain ⟨first, rest, rfl⟩ := List.exists_cons_of_ne_nil hne
      obtain ⟨c, -, rfl⟩ := hms first List.mem_cons_self
      simp
    · intro c hc
      obtain ⟨one, hone, hmem⟩ := List.mem_flatten.1 hc
      obtain ⟨d, hd, rfl⟩ := hms one hone
      rwa [List.mem_singleton.1 hmem]
    · rcases hend with rfl | rfl
      · exact .inl (by simpa using hshape)
      · exact .inr (by simpa using hshape)
  · rintro ⟨digits, h⟩
    have hone : ∀ m ∈ digits.map ([·]), ∃ c, isDecimal c = true ∧ m = [c] := by
      intro m hm
      obtain ⟨c, hc, rfl⟩ := List.mem_map.1 hm
      exact ⟨c, h.decimal c hc, rfl⟩
    have hflat : digits = (digits.map ([·])).flatten := by simp [← List.flatMap_def]
    rcases h.shape with hshape | hshape
    · exact ⟨[], .inl rfl, _, ⟨_, _, rfl, ⟨_, by simpa using h.nonempty, hone, hflat⟩, rfl⟩, by simp [hshape]⟩
    · exact ⟨['\n'], .inr rfl, _, ⟨_, _, rfl, ⟨_, by simpa using h.nonempty, hone, hflat⟩, rfl⟩,
        by simp [hshape]⟩

/-! ## The numbers of a version -/

/-- A version is read as three and the number that its digits spell, unless they are too many. -/
theorem readVersion_of_spells (h : SpellsVersion text digits) :
    readVersion text = if digitLimit < digits.length then .error (tooManyDigits digits.length)
      else .ok (3, decimalValue digits) := by
  obtain ⟨tail, htail, hshape⟩ : ∃ tail, (tail = [] ∨ tail = ['\n']) ∧
      text.toList = ['3'] ++ '.' :: (digits ++ tail) := by
    rcases h.shape with hshape | hshape
    · exact ⟨[], .inl rfl, by simp [hshape]⟩
    · exact ⟨['\n'], .inr rfl, by simp [hshape]⟩
  have hblank : ∀ c ∈ tail, isNarrowBlank (plainNumeralChar c) = true := by
    rcases htail with rfl | rfl
    · simp
    · simpa using (by decide : isNarrowBlank (plainNumeralChar '\n') = true)
  -- the one dot of the text is that before the digits
  have hdot : '.' ∉ digits ++ tail := by
    rw [List.mem_append]
    rintro (hmem | hmem)
    · exact absurd (h.decimal '.' hmem) (by decide)
    · exact absurd (hblank '.' hmem) (by decide)
  have hpieces : pieces '.' text = [String.ofList ['3'], String.ofList (digits ++ tail)] := by
    rw [pieces, hshape, splitOn_append, splitOn_of_notMem hdot]
    rfl
  have hmajor : readWhole 10 (String.ofList ['3']) = .ok 3 := by decide
  have hminor := readWhole_digits h.nonempty h.decimal hblank
  simp only [readVersion, hpieces, hmajor, hminor]
  by_cases hlimit : digitLimit < digits.length
  · simp only [if_pos hlimit]
    rfl
  · simp only [if_neg hlimit]
    rfl

namespace Options

/-- The grammar version of an option set whose target version is a text that spells one. -/
theorem featureVersion_of_spells (htarget : o.target.map TargetVersion.text = some text)
    (h : SpellsVersion text digits) :
    o.featureVersion = if digitLimit < digits.length then .error (tooManyDigits digits.length)
      else .ok (some (3, decimalValue digits)) := by
  obtain ⟨v, hv, rfl⟩ := Option.map_eq_some_iff.1 htarget
  rw [featureVersion, hv]
  simp only [readVersion_of_spells h]
  by_cases hlimit : digitLimit < digits.length
  · simp only [if_pos hlimit]
    rfl
  · simp only [if_neg hlimit]
    rfl

/-! ## Option sets -/

/-- An option set with nothing but a target version. -/
theorem ofEntries_target (text : String) : ofEntries [("target_version", .text text)] =
    match TargetVersion.ofString? text with
    | some version => .ok { target := some version }
    | none => .faulty [⟨[.field "target_version"], .refused (targetVersionRefusal text), .text text⟩] := by
  have hfield : optional [("target_version", Datum.text text)] "target_version" none (orNull asTargetVersion) =
      match TargetVersion.ofString? text with
      | some version => .ok (some version)
      | none => .faulty [⟨[.field "target_version"], .refused (targetVersionRefusal text), .text text⟩] := by
    have hlookup : lookupEntry "target_version" [("target_version", Datum.text text)] = some (.text text) := rfl
    simp only [optional, hlookup, orNull, asTargetVersion, asText, Checked.andThen]
    cases TargetVersion.ofString? text with
    | some version => rfl
    | none => rfl
  rw [ofEntries, hfield]
  cases TargetVersion.ofString? text with
  | some version => rfl
  | none => rfl

theorem ofEntries_target_eq_ok : ofEntries [("target_version", .text text)] = .ok o ↔
    ∃ version, TargetVersion.ofString? text = some version ∧ ({ target := some version } : Options) = o := by
  rw [ofEntries_target]
  cases TargetVersion.ofString? text with
  | some version => simp
  | none => simp

/-- An option set whose target version is changed. -/
theorem withTarget_eq_ok {base : Options} : base.withTarget (.text text) = .ok o ↔
    ∃ version, TargetVersion.ofString? text = some version ∧ { base with target := some version } = o := by
  rw [← Checked.orFail_eq_ok, withTarget_text]
  cases TargetVersion.ofString? text with
  | some version => simp
  | none => simp

/-- An option set has its target version from a text, which was given for a new one or for a change of another. -/
def TargetFrom (text : String) (o : Options) : Prop :=
  ofEntries [("target_version", .text text)] = .ok o ∨ ∃ base : Options, base.withTarget (.text text) = .ok o

theorem TargetFrom.text_target (h : o.TargetFrom text) : o.target.map TargetVersion.text = some text := by
  rcases h with h | ⟨base, h⟩
  · obtain ⟨version, hversion, rfl⟩ := ofEntries_target_eq_ok.1 h
    exact congrArg some (TargetVersion.text_of_ofString? hversion)
  · obtain ⟨version, hversion, rfl⟩ := withTarget_eq_ok.1 h
    exact congrArg some (TargetVersion.text_of_ofString? hversion)

/-- **A target version is accepted just if it spells a version**, for a new option set and for a change of any
other; **and every one that was accepted is read** as three and the number that its digits spell, unless they
are too many to be read at all. -/
theorem target_accepted_and_read (text : String) :
    ((∃ o, ofEntries [("target_version", .text text)] = .ok o) ↔ ∃ digits, SpellsVersion text digits) ∧
    (∀ base : Options, (∃ o, base.withTarget (.text text) = .ok o) ↔ ∃ digits, SpellsVersion text digits) ∧
    ∀ o : Options, o.TargetFrom text → ∀ digits, SpellsVersion text digits →
      o.featureVersion = if digitLimit < digits.length then .error (tooManyDigits digits.length)
        else .ok (some (3, decimalValue digits)) := by
  refine ⟨?_, fun base => ?_, fun o ho digits h => featureVersion_of_spells ho.text_target h⟩
  · simp only [ofEntries_target_eq_ok, ← ofString?_isSome_iff, Option.isSome_iff_exists]
    exact ⟨fun ⟨_, version, hversion, _⟩ => ⟨version, hversion⟩,
      fun ⟨version, hversion⟩ => ⟨_, version, hversion, rfl⟩⟩
  · simp only [withTarget_eq_ok, ← ofString?_isSome_iff, Option.isSome_iff_exists]
    exact ⟨fun ⟨_, version, hversion, _⟩ => ⟨version, hversion⟩,
      fun ⟨version, hversion⟩ => ⟨_, version, hversion, rfl⟩⟩

/-- Digits of two scripts, a leading zero and a line feed at the end. -/
theorem target_accepted_and_read_mixed :
    SpellsVersion "3.0٩\n" ['0', '٩'] ∧
    ∃ o, ofEntries [("target_version", .text "3.0٩\n")] = .ok o ∧ o.featureVersion = .ok (some (3, 9)) := by
  have hdecimal : ∀ c ∈ ['0', '٩'], isDecimal c = true := by
    simpa using (by decide : isDecimal '0' = true ∧ isDecimal '٩' = true)
  have hspells : SpellsVersion "3.0٩\n" ['0', '٩'] := ⟨by simp, hdecimal, .inr rfl⟩
  obtain ⟨haccepted, -, hread⟩ := target_accepted_and_read "3.0٩\n"
  obtain ⟨o, ho⟩ := haccepted.2 ⟨_, hspells⟩
  exact ⟨hspells, o, ho, (hread o (.inl ho) _ hspells).trans (by decide +kernel)⟩

end Options

end UnitFoundry
