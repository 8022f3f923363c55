import UnitFoundry.Proofs.Pieces
import UnitFoundry.Proofs.Settings.Failures

/-!
# What is overridden does not matter

Settings depend on the entries that count in a file and on what the variables say, and on nothing else: neither on
the other entries of the file, nor on the entries that a variable takes the place of, right or wrong as they may be.
So two files are as good as each other if they agree on the entries of those variables that say nothing.

* `Effective`, `effective_iff` — the entries that count: those of the section for the compiler, if there is one;
* `overrides_congr`, `said?_cons_empty` — environments that say the same, and variables that are empty;
* `ofEntries_congr` — settings depend on seven entries;
* `resourcePath_of_variable` — the resource path that a variable gives;
* `load_precedence` — **settings are the same, or fail in the same way, whatever is overridden**.
-/

namespace UnitFoundry

open Text

variable {α : Type} {disk disk' : Disk} {path path' : Option Path} {entries entries' : List (String × Datum)}
  {environment environment' : List (String × String)}

/-! ## Entries that are left out -/

theorem lookupEntry_filter_ne {key name : String} (h : key ≠ name) (entered : List (String × α)) :
    lookupEntry key (entered.filter (·.1 ≠ name)) = lookupEntry key entered := by
  rw [lookupEntry, lookupEntry, List.find?_filter]
  congr 2
  funext entry
  by_cases hentry : entry.1 = key
  · simp [hentry, h]
  · simp [hentry]

theorem lookupEntry_filter_self (name : String) (entered : List (String × α)) :
    lookupEntry name (entered.filter (·.1 ≠ name)) = none := by
  refine lookupEntry_eq_none fun entry hentry => ?_
  simpa using (List.mem_filter.1 hentry).2

namespace Settings

/-! ## The entries that count -/

/-- The entries that count in an optional settings file. -/
inductive Effective (disk : Disk) : Option Path → List (String × Datum) → Prop where
  | noFile : Effective disk none []
  | empty {file : Path} {document : Datum} (hdocument : HasDocument disk file document)
    (h : document.isEmpty = true) : Effective disk (some file) []
  /-- A document without a section for the compiler. -/
  | whole {file : Path} {fields : List (Datum × Datum)} (hdocument : HasDocument disk file (.mapping fields))
    (h : lookupEntry "compiler" (Datum.mapping fields).fields = none) :
    Effective disk (some file) (Datum.mapping fields).fields
  | section {file : Path} {fields inner : List (Datum × Datum)}
    (hdocument : HasDocument disk file (.mapping fields))
    (h : lookupEntry "compiler" (Datum.mapping fields).fields = some (.mapping inner)) :
    Effective disk (some file) (Datum.mapping inner).fields
  /-- The section for the compiler is the document again. -/
  | again {file : Path} {fields : List (Datum × Datum)} {found : Datum}
    (hdocument : HasDocument disk file (.mapping fields))
    (h : lookupEntry "compiler" (Datum.mapping fields).fields = some found)
    (hagain : Yaml.isMappingAgain found = true) : Effective disk (some file) (Datum.mapping fields).fields

theorem entriesOf_of_empty {file : Path} {document : Datum} (h : document.isEmpty = true) :
    entriesOf file document = .ok [] := by
  unfold entriesOf
  exact if_pos h

/-- The entries of a document that is a mapping are those of its section. -/
theorem entriesOf_of_section {file : Path} {fields inner : List (Datum × Datum)}
    (h : sectionOf (.mapping fields) = .mapping inner) :
    entriesOf file (.mapping fields) = .ok (Datum.mapping inner).fields := by
  unfold entriesOf
  split
  · rename_i hempty
    -- a mapping without entries has no section but itself
    cases fields with
    | nil =>
      cases h
      rfl
    | cons entry rest => cases hempty
  · rw [h]

theorem Effective.entriesIn (h : Effective disk path entries) : entriesIn disk path = .ok entries := by
  cases h with
  | noFile => rfl
  | empty hdocument h => exact (readFile_of_hasDocument hdocument).trans (entriesOf_of_empty h)
  | whole hdocument h =>
    exact (readFile_of_hasDocument hdocument).trans (entriesOf_of_section (by rw [sectionOf, h]))
  | «section» hdocument h =>
    exact (readFile_of_hasDocument hdocument).trans (entriesOf_of_section (by rw [sectionOf, h]; rfl))
  | again hdocument h hagain =>
    refine (readFile_of_hasDocument hdocument).trans (entriesOf_of_section ?_)
    rw [sectionOf, h]
    exact if_pos hagain

/-- A file that is read has a document. -/
theorem hasDocument_of_readFile {file : Path} (h : readFile disk file = .ok entries) :
    ∃ document, HasDocument disk file document ∧ entriesOf file document = .ok entries := by
  rw [readFile] at h
  split at h
  · cases h
  · cases h
  · change (disk.readText file >>= _) = _ at h
    cases htext : disk.readText file with
    | error f =>
      rw [htext] at h
      cases h
    | ok text =>
      rw [htext] at h
      change ((Yaml.readDocument text).mapError .raised >>= entriesOf file) = _ at h
      cases hread : Yaml.readDocument text with
      | error why =>
        rw [hread] at h
        cases h
      | ok document =>
        rw [hread] at h
        exact ⟨document, ⟨text, htext, hread⟩, h⟩

/-- **The entries that count** are those that are read from the file. -/
theorem effective_iff : Effective disk path entries ↔ entriesIn disk path = .ok entries := by
  refine ⟨Effective.entriesIn, fun h => ?_⟩
  cases path with
  | none =>
    cases h
    exact .noFile
  | some file =>
    obtain ⟨document, hdocument, hentries⟩ := hasDocument_of_readFile h
    by_cases hempty : document.isEmpty = true
    · rw [entriesOf_of_empty hempty] at hentries
      cases hentries
      exact .empty hdocument hempty
    by_cases hmapping : ∃ fields, document = .mapping fields
    · obtain ⟨fields, rfl⟩ := hmapping
      have hcount (inner : List (Datum × Datum)) (hsection : sectionOf (.mapping fields) = .mapping inner) :
          (Datum.mapping inner).fields = entries :=
        Except.ok.inj ((entriesOf_of_section hsection).symm.trans hentries)
      cases hfound : lookupEntry "compiler" (Datum.mapping fields).fields with
      | none =>
        rw [← hcount fields (by rw [sectionOf, hfound])]
        exact .whole hdocument hfound
      | some found =>
        cases hagain : Yaml.isMappingAgain found with
        | true =>
          rw [← hcount fields (by rw [sectionOf, hfound]; exact if_pos hagain)]
          exact .again hdocument hfound hagain
        | false =>
          by_cases hkind : ∃ inner, found = .mapping inner
          · obtain ⟨inner, rfl⟩ := hkind
            rw [← hcount inner (by rw [sectionOf, hfound]; rfl)]
            exact .section hdocument hfound
          · have hnone : isMapping found = false := by
              cases found with
              | mapping inner => exact absurd ⟨inner, rfl⟩ hkind
              | _ => exact hagain
            rw [entriesOf_of_noSection hfound hnone] at hentries
            cases hentries
    · rw [entriesOf_of_noMapping (by simpa using hempty) fun fields heq => hmapping ⟨fields, heq⟩] at hentries
      cases hentries

/-! ## What the variables say -/

/-- Environments override the same entries if their variables say the same. -/
theorem overrides_congr (h : ∀ v ∈ fieldVariables, said? environment v.1 = said? environment' v.1) :
    overrides environment = overrides environment' := by
  rw [overrides_eq, overrides_eq]
  refine List.filterMap_congr fun v hv => ?_
  rw [h v hv]

/-- A variable that is empty says as little as one that is not set. -/
theorem said?_cons_empty (name ending : String) (environment : List (String × String)) :
    said? ((name, "") :: environment) ending = said? (environment.filter (·.1 ≠ name)) ending := by
  rw [said?, said?, lookupEntry_cons]
  by_cases hname : name = variableStart ++ ending
  · rw [if_pos hname, hname, lookupEntry_filter_self]
    rfl
  · rw [if_neg hname, lookupEntry_filter_ne (Ne.symm hname)]

/-! ## What settings depend on -/

/-- Settings depend on the entries of the seven variables. -/
theorem ofEntries_congr (h : ∀ v ∈ fieldVariables, lookupEntry v.2 entries = lookupEntry v.2 entries') :
    ofEntries entries = ofEntries entries' := by
  have hfield {β : Type} (v : String × String) (hv : v ∈ fieldVariables) (absent : β)
      (decode : Datum → Checked β) : optional entries v.2 absent decode = optional entries' v.2 absent decode :=
    optional_congr (h v hv) absent decode
  rw [ofEntries, hfield ("BACKEND", "backend") (by decide),
    hfield ("TARGET_VERSION", "target_version") (by decide), hfield ("LINT_RECOVERY", "lint_recovery") (by decide),
    hfield ("WARNINGS_AS_ERRORS", "warnings_as_errors") (by decide),
    hfield ("RESOURCE_PATH", "resource_path") (by decide), hfield ("COMPILE_DIR", "compile_directory") (by decide),
    hfield ("VERBOSE", "verbose") (by decide)]
  rfl

/-- Settings that are read field by field have their resource path from its own entry. -/
theorem resourcePath_of_ofEntries {settings : Settings} (h : ofEntries entries = .ok settings) :
    optional entries "resource_path" [] (asList asPath) = .ok settings.resourcePath := by
  obtain ⟨_, _, hverbose, -, rfl⟩ := Checked.seq_eq_ok.1 h
  obtain ⟨_, _, hdirectory, -, rfl⟩ := Checked.seq_eq_ok.1 hverbose
  obtain ⟨_, _, hplaces, hpath, rfl⟩ := Checked.seq_eq_ok.1 hdirectory
  obtain ⟨_, _, hflags, -, rfl⟩ := Checked.seq_eq_ok.1 hplaces
  obtain ⟨_, _, hversion, -, rfl⟩ := Checked.seq_eq_ok.1 hflags
  obtain ⟨_, _, hbackend, -, rfl⟩ := Checked.seq_eq_ok.1 hversion
  obtain ⟨_, -, rfl⟩ := Checked.map_eq_ok.1 hbackend
  exact hpath

theorem load_of_effective (h : Effective disk path entries) :
    load disk path environment = (ofEntries (mergeEntries entries (overrides environment))).orFail recordName := by
  rw [load_eq, h.entriesIn]
  rfl

/-- The parts of a resource path in a variable, as paths. -/
theorem asList_variableDatum (value : String) : asList asPath (variableDatum "resource_path" value) =
    .ok (((pieces ':' value).filter (!·.isEmpty)).map Path.ofString) := by
  have hpath (part : String) : asPath (.text part) = .ok (Path.ofString part) := rfl
  exact eachItem_map hpath _

/-- The resource path that a variable gives is the parts of it between the colons, but for the empty ones. -/
theorem resourcePath_of_variable {settings : Settings} {value : String} (heffective : Effective disk path entries)
    (hsaid : said? environment "RESOURCE_PATH" = some value)
    (h : load disk path environment = .ok settings) :
    settings.resourcePath = ((pieces ':' value).filter (!·.isEmpty)).map Path.ofString := by
  rw [load_of_effective heffective, Checked.orFail_eq_ok] at h
  have hpath := resourcePath_of_ofEntries h
  rw [optional, lookupEntry_mergeEntries, lastSet?_overrides environment (by decide : ("RESOURCE_PATH", _) ∈ _),
    hsaid, Option.map_some, Option.some_or] at hpath
  have hparts := Checked.under_eq_ok.1 hpath
  rw [asList_variableDatum] at hparts
  exact (Checked.ok.inj hparts).symm

/-! ## The law -/

/-- **What is overridden does not matter.** Where the variables say the same, and the entries that count agree on
what the variables say nothing about, the settings are the same or fail in the same way. A variable that is empty
is as good as none. The resource path of a variable is the parts of it that are not empty, in their order. -/
theorem load_precedence (heffective : Effective disk path entries) (heffective' : Effective disk' path' entries')
    (hsaid : ∀ v ∈ fieldVariables, said? environment v.1 = said? environment' v.1)
    (hagree : ∀ v ∈ fieldVariables, said? environment v.1 = none →
      lookupEntry v.2 entries = lookupEntry v.2 entries') :
    load disk path environment = load disk' path' environment' ∧
    (∀ name, load disk path ((name, "") :: environment) = load disk path (environment.filter (·.1 ≠ name))) ∧
    ∀ value settings, said? environment "RESOURCE_PATH" = some value →
      load disk path environment = .ok settings →
      ∃ parts : List String, (∀ part ∈ parts, ':' ∉ part.toList) ∧
        joinWith ':' (parts.map String.toList) = value.toList ∧
        settings.resourcePath = (parts.filter (!·.isEmpty)).map Path.ofString := by
  refine ⟨?_, fun name => ?_, fun value settings hvalue hsettings => ?_⟩
  · rw [load_of_effective heffective, load_of_effective heffective', ← overrides_congr hsaid]
    congr 1
    refine ofEntries_congr fun v hv => ?_
    rw [lookupEntry_mergeEntries, lookupEntry_mergeEntries, lastSet?_overrides environment hv]
    -- an entry counts only where its variable says nothing
    cases hv' : said? environment v.1 with
    | some value => rfl
    | none => exact congrArg _ (hagree v hv hv')
  · rw [load_eq, load_eq, overrides_congr fun v _ => said?_cons_empty name v.1 environment]
  · have hlists : (pieces ':' value).map String.toList = splitOn ':' value.toList := by
      simp [pieces, Function.comp_def]
    refine ⟨pieces ':' value, fun part hpart => ?_, ?_, resourcePath_of_variable heffective hvalue hsettings⟩
    · exact notMem_of_mem_splitOn (hlists ▸ List.mem_map_of_mem hpart)
    · rw [hlists, joinWith_splitOn]

/-! ## A faulty entry -/

/-- A settings file with an entry that is no flag. -/
def noFlag : Disk := { nodes := [(["settings.yaml"], .file (encodeUtf8 "lint_recovery: maybe\n"))] }

/-- Whether a document is a mapping with nothing but an entry that is no flag. -/
def isNoFlag : Except Raised Datum → Bool
  | .ok (.mapping [(.text key, .text value)]) => key = "lint_recovery" && value = "maybe"
  | _ => false

theorem eq_of_isNoFlag {result : Except Raised Datum} (h : isNoFlag result = true) :
    result = .ok (.mapping [(.text "lint_recovery", .text "maybe")]) := by
  unfold isNoFlag at h
  split at h
  · simp only [Bool.and_eq_true, decide_eq_true_eq] at h
    rw [h.1, h.2]
  · cases h

theorem noFlag_effective :
    Effective noFlag (some { parts := ["settings.yaml"] }) [("lint_recovery", .text "maybe")] := by
  have hdata : noFlag.read? { parts := ["settings.yaml"] } = some (encodeUtf8 "lint_recovery: maybe\n") := by
    decide +kernel
  have htext : noFlag.readText { parts := ["settings.yaml"] } = .ok "lint_recovery: maybe\n" := by
    rw [Disk.readText, hdata]
    dsimp only
    rw [decodeUtf8_encodeUtf8]
    rfl
  exact .whole ⟨_, htext, eq_of_isNoFlag (by decide +kernel)⟩ rfl

/-- A faulty entry is as good as none if its variable takes its place. -/
theorem load_precedence_noFlag :
    load noFlag (some { parts := ["settings.yaml"] }) [("LIVECOMPILE_LINT_RECOVERY", "yes")] =
      load {} none [("LIVECOMPILE_LINT_RECOVERY", "yes")] := by
  have hsays : ∀ v ∈ fieldVariables, "lint_recovery" = v.2 →
      said? [("LIVECOMPILE_LINT_RECOVERY", "yes")] v.1 ≠ none := by
    decide
  refine (load_precedence noFlag_effective .noFile (fun _ _ => rfl) fun v hv hnone => ?_).1
  rw [lookupEntry_cons, if_neg fun heq => hsays v hv heq hnone]

end Settings

end UnitFoundry
