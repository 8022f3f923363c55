import UnitFoundry.Proofs.Entries
import UnitFoundry.Proofs.Schema
import UnitFoundry.Settings

/-!
# Where settings come from

Settings are read from a file and overridden by the environment. So each of them is what its variable says, else what
its entry says, else what it is when neither says anything. A variable that is empty says nothing.

* `FirstGiven` — a value that is taken from the first place that gives it;
* `said?`, `lastSet?_overrides` — what a variable says, and that this is what overrides its entry;
* `ofEntries_eq_ok` — settings are read field by field;
* `given_of_load` — **where the settings come from that a policy is made of**.
-/

namespace UnitFoundry

open Text

variable {α : Type}

/-! ## The first place -/

/-- A value is taken from the first place that gives it: it is given outright, or by a datum in a first place, or by
one in a second place. Else it is the value for its absence. -/
inductive FirstGiven (decode : Datum → Checked α) (absent : α) :
    Option α → Option Datum → Option Datum → α → Prop where
  | outright (x : α) (first second : Option Datum) : FirstGiven decode absent (some x) first second x
  | first {d : Datum} {x : α} (h : decode d = .ok x) (second : Option Datum) :
    FirstGiven decode absent none (some d) second x
  | second {d : Datum} {x : α} (h : decode d = .ok x) : FirstGiven decode absent none none (some d) x
  | absent : FirstGiven decode absent none none none absent

variable {decode : Datum → Checked α} {absent x : α} {first second : Option Datum}

/-- A value that is given outright takes the place of one that is not. -/
theorem FirstGiven.override (h : FirstGiven decode absent none first second x) (given : Option α) :
    FirstGiven decode absent given first second (given.getD x) := by
  cases given with
  | none => exact h
  | some y => exact .outright y first second

/-- What a field comes from, among entries that are overridden. -/
theorem firstGiven_of_optional {entries overrides : List (String × Datum)} {key : String}
    (h : optional (mergeEntries entries overrides) key absent decode = .ok x) :
    FirstGiven decode absent none (lastSet? overrides key) (lookupEntry key entries) x := by
  rw [optional, lookupEntry_mergeEntries] at h
  cases hover : lastSet? overrides key with
  | some d =>
    rw [hover] at h
    exact .first (Checked.under_eq_ok.1 h) _
  | none =>
    rw [hover, Option.none_or] at h
    cases hentry : lookupEntry key entries with
    | some d =>
      rw [hentry] at h
      exact .second (Checked.under_eq_ok.1 h)
    | none =>
      rw [hentry] at h
      cases h
      exact .absent

namespace Settings

/-! ## The environment -/

/-- What a variable says. -/
def said? (environment : List (String × String)) (ending : String) : Option String :=
  (lookupEntry (variableStart ++ ending) environment).filter fun value => !value.isEmpty

/-- The entries that an environment gives are what its variables say. -/
theorem overrides_eq (environment : List (String × String)) : overrides environment =
    fieldVariables.filterMap fun v => ((said? environment v.1).map (variableDatum v.2)).map (v.2, ·) := by
  refine List.filterMap_congr fun v _ => ?_
  obtain ⟨ending, field⟩ := v
  dsimp only [said?]
  cases lookupEntry (variableStart ++ ending) environment with
  | none => rfl
  | some value =>
    dsimp only
    by_cases hempty : value.isEmpty = true
    · rw [if_pos hempty, Option.filter_some, if_neg (by simp [hempty])]
      rfl
    · rw [if_neg hempty, Option.filter_some, if_pos (by simpa using hempty)]
      rfl

/-- What a variable says is what overrides its entry. -/
theorem lastSet?_overrides (environment : List (String × String)) {ending field : String}
    (h : (ending, field) ∈ fieldVariables) :
    lastSet? (overrides environment) field = (said? environment ending).map (variableDatum field) := by
  have hkeys : (fieldVariables.map (·.2)).Nodup := by decide
  rw [overrides_eq]
  exact lastSet?_filterMap hkeys (fun k => (said? environment k.1).map (variableDatum k.2)) h

/-! ## The file -/

/-- The entries of an optional settings file. -/
def entriesIn (disk : Disk) : Option Path → Except Failure (List (String × Datum))
  | some path => readFile disk path
  | none => .ok []

theorem load_eq (disk : Disk) (path : Option Path) (environment : List (String × String)) :
    load disk path environment = (do
      let entries ← entriesIn disk path
      (ofEntries (mergeEntries entries (overrides environment))).orFail recordName) := by
  cases path with
  | none => rfl
  | some path => rfl

/-- Settings are read field by field; these are the fields that a policy is made of. -/
theorem ofEntries_eq_ok {entries : List (String × Datum)} {settings : Settings}
    (h : ofEntries entries = .ok settings) :
    optional entries "target_version" none (orNull asTarget) = .ok settings.target ∧
      optional entries "lint_recovery" false asFlag = .ok settings.lintRecovery ∧
      optional entries "warnings_as_errors" true asFlag = .ok settings.warningsAsErrors := by
  obtain ⟨_, _, hverbose, -, rfl⟩ := Checked.seq_eq_ok.1 h
  obtain ⟨_, _, hdirectory, -, rfl⟩ := Checked.seq_eq_ok.1 hverbose
  obtain ⟨_, _, hplaces, -, rfl⟩ := Checked.seq_eq_ok.1 hdirectory
  obtain ⟨_, _, hflags, herrors, rfl⟩ := Checked.seq_eq_ok.1 hplaces
  obtain ⟨_, _, hversion, hrecovery, rfl⟩ := Checked.seq_eq_ok.1 hflags
  obtain ⟨_, _, hbackend, htarget, rfl⟩ := Checked.seq_eq_ok.1 hversion
  obtain ⟨_, -, rfl⟩ := Checked.map_eq_ok.1 hbackend
  exact ⟨htarget, hrecovery, herrors⟩

/-- **Where the settings come from that a policy is made of**: from the environment, else from the file. -/
theorem given_of_load {disk : Disk} {path : Option Path} {environment : List (String × String)}
    {settings : Settings} (h : load disk path environment = .ok settings) :
    ∃ entries, entriesIn disk path = .ok entries ∧
      FirstGiven (orNull asTarget) none none ((said? environment "TARGET_VERSION").map .text)
        (lookupEntry "target_version" entries) settings.target ∧
      FirstGiven asFlag false none ((said? environment "LINT_RECOVERY").map .text)
        (lookupEntry "lint_recovery" entries) settings.lintRecovery ∧
      FirstGiven asFlag true none ((said? environment "WARNINGS_AS_ERRORS").map .text)
        (lookupEntry "warnings_as_errors" entries) settings.warningsAsErrors := by
  rw [load_eq] at h
  cases hentries : entriesIn disk path with
  | error f =>
    rw [hentries] at h
    cases h
  | ok entries =>
    refine ⟨entries, rfl, ?_⟩
    have hsettings : ofEntries (mergeEntries entries (overrides environment)) = .ok settings := by
      rw [hentries] at h
      exact Checked.orFail_eq_ok.1 h
    obtain ⟨htarget, hrecovery, herrors⟩ := ofEntries_eq_ok hsettings
    have hvariable (ending field : String) (hmem : (ending, field) ∈ fieldVariables)
        (htext : field ≠ "resource_path") :
        lastSet? (overrides environment) field = (said? environment ending).map .text := by
      rw [lastSet?_overrides environment hmem]
      have hdatum : variableDatum field = .text := funext fun value => if_neg htext
      rw [hdatum]
    rw [← hvariable "TARGET_VERSION" "target_version" (by decide) (by decide),
      ← hvariable "LINT_RECOVERY" "lint_recovery" (by decide) (by decide),
      ← hvariable "WARNINGS_AS_ERRORS" "warnings_as_errors" (by decide) (by decide)]
    exact ⟨firstGiven_of_optional htarget, firstGiven_of_optional hrecovery, firstGiven_of_optional herrors⟩

end Settings

end UnitFoundry
