import UnitFoundry.Proofs.Disk.Looking
import UnitFoundry.Proofs.Settings
import UnitFoundry.Proofs.Text.Utf8
import UnitFoundry.Proofs.Yaml.Composing

/-!
# Settings that are refused

Settings may be refused: there is no file, it holds no text or no document, the document is no mapping, or an entry is
faulty. Callers are told which kinds of failures that means. But other failures get past: a section for the compiler
that is no mapping is noticed only when it is put together with the environment, what the reader of documents stumbles
over is passed on as it is, and so are the complaints of the file system about a path.

* `foreseenKinds`, `isForeseen` — the failures that callers are told of;
* `Refused` — how settings are refused, with the failure for each way;
* `Escapes` — how another failure gets past;
* `load_error_iff` — **settings fail in these ways only: those refused are foreseen, and what gets past is not**.
-/

namespace UnitFoundry.Settings

open Text

/-! ## Ways to fail -/

/-- The kinds of failures that callers are told of. -/
def foreseenKinds : List String := ["FileNotFoundError", "ValueError", "YAMLError"]

/-- Whether a failure is of a kind that callers are told of. -/
def isForeseen (f : Failure) : Bool := foreseenKinds.any fun kind => f.isKindOf kind

/-- Whether a datum is a mapping, also one that it stands inside of. -/
def isMapping : Datum → Bool
  | .mapping _ => true
  | d => Yaml.isMappingAgain d

variable (disk : Disk) (file : Path)

/-- A settings file has a document. -/
def HasDocument (document : Datum) : Prop :=
  ∃ text, disk.readText file = .ok text ∧ Yaml.readDocument text = .ok document

/-- How settings are refused. -/
inductive Refused (environment : List (String × String)) : Option Path → Failure → Prop where
  | missing {file : Path} (h : disk.look file = .ok none) :
    Refused environment (some file) (.exception "FileNotFoundError" ("Settings file not found: " ++ file.toString))
  | noText {file : Path} {data : Bytes} {fault : Utf8Fault} (hdata : disk.read? file = some data)
    (h : decodeUtf8 data = .error fault) :
    Refused environment (some file) (.exception "UnicodeDecodeError" fault.message)
  | noDocument {file : Path} {text : String} (htext : disk.readText file = .ok text)
    (h : Yaml.readDocument text = .error Yaml.unreadable) : Refused environment (some file) (.raised Yaml.unreadable)
  | noValue {file : Path} {text message : String} (htext : disk.readText file = .ok text)
    (h : Yaml.readDocument text = .error (Yaml.faultyValue message)) :
    Refused environment (some file) (.raised (Yaml.faultyValue message))
  | noMapping {file : Path} {document : Datum} (hdocument : HasDocument disk file document)
    (hgiven : document.isEmpty = false) (h : ∀ entries, document ≠ .mapping entries) :
    Refused environment (some file)
      (.exception "ValueError" ("Settings file " ++ file.toString ++ " must contain a mapping"))
  | faulty {path : Option Path} {entries : List (String × Datum)} {faults : List Fault}
    (hentries : entriesIn disk path = .ok entries)
    (h : ofEntries (mergeEntries entries (overrides environment)) = .faulty faults) :
    Refused environment path (.invalid recordName faults)

/-- How a failure gets past that nobody is told of. -/
inductive Escapes : Failure → Prop where
  /-- The path is too long to be looked up. -/
  | tooLong (hnull : Disk.hasNull file = false) (h : disk.TooLong file) :
    Escapes (.raised (Refusal.nameTooLong.raised file))
  /-- The path leads to a directory. -/
  | directory (h : disk.node? file = some .directory) : Escapes (.raised (Refusal.isDirectory.raised file))
  /-- The reader of documents stumbles. -/
  | stray {text : String} {why : Raised} (htext : disk.readText file = .ok text)
    (hread : Yaml.readDocument text = .error why) (h : Yaml.Stray why) : Escapes (.raised why)
  /-- The section for the compiler is no mapping. -/
  | noSection {entries : List (Datum × Datum)} {found : Datum} (hdocument : HasDocument disk file (.mapping entries))
    (hfound : lookupEntry "compiler" (Datum.mapping entries).fields = some found) (h : isMapping found = false) :
    Escapes (.exception "TypeError" (quote found.fullKindName ++ " object is not a mapping"))

/-! ## Kinds -/

variable {disk file} {environment : List (String × String)} {path : Option Path} {f : Failure}

theorem Refused.isForeseen (h : Refused disk environment path f) : isForeseen f = true := by
  cases h with
  | missing h => exact (by decide : foreseenKinds.any (isKind "FileNotFoundError") = true)
  | noText hdata h => exact (by decide : foreseenKinds.any (isKind "UnicodeDecodeError") = true)
  | noDocument htext h => exact (by decide : foreseenKinds.any (isKind "YAMLError") = true)
  | noValue htext h => exact (by decide : foreseenKinds.any (isKind "ValueError") = true)
  | noMapping hdocument hgiven h => exact (by decide : foreseenKinds.any (isKind "ValueError") = true)
  | faulty hentries h => exact (by decide : foreseenKinds.any (isKind "ValidationError") = true)

theorem Escapes.not_isForeseen (h : Escapes disk file f) : Settings.isForeseen f = false := by
  cases h with
  | tooLong hnull h => exact (by decide : foreseenKinds.any (isKind "OSError") = false)
  | directory h => exact (by decide : foreseenKinds.any (isKind "IsADirectoryError") = false)
  | @stray text why htext hread h =>
    have hkinds : ∀ kind ∈ ["OverflowError", "IndexError", "KeyError", "AttributeError", "RecursionError"],
        foreseenKinds.any (isKind kind) = false := by decide
    exact hkinds why.kind h.kind_mem
  | noSection hdocument hfound h => exact (by decide : foreseenKinds.any (isKind "TypeError") = false)

/-! ## Files -/

/-- A path is looked up as it should be, unless it is too long. -/
theorem look_cases (disk : Disk) (file : Path) :
    (Disk.hasNull file = false ∧ disk.TooLong file) ∨ disk.look file = .ok (disk.node? file) := by
  by_cases hlong : disk.TooLong file
  · cases hnull : Disk.hasNull file with
    | false => exact .inl ⟨rfl, hlong⟩
    | true => exact .inr (by rw [Disk.look, Disk.node?, if_pos hnull, if_pos hnull])
  · exact .inr (Disk.look_of_not_tooLong hlong)

theorem look_of_node? {node : Node} (h : disk.node? file = some node) : disk.look file = .ok (some node) := by
  obtain ⟨hnull, place, hplace, hnode⟩ := Disk.node?_eq_some h
  rw [Disk.look, hnull, if_neg Bool.false_ne_true, hplace]
  exact congrArg _ hnode

theorem look_of_read? {data : Bytes} (h : disk.read? file = some data) :
    ∃ node, disk.look file = .ok (some node) := by
  obtain ⟨node, hnode, -⟩ := Option.bind_eq_some_iff.1 h
  exact ⟨node, look_of_node? hnode⟩

theorem read?_of_readText {text : String} (h : disk.readText file = .ok text) :
    ∃ data, disk.read? file = some data := by
  unfold Disk.readText at h
  split at h
  · cases h
  · exact ⟨_, ‹_›⟩

/-- Something to which a path leads is read as its text says. -/
theorem readFile_of_readText {text : String} (h : disk.readText file = .ok text) :
    readFile disk file = (Yaml.readDocument text).mapError .raised >>= entriesOf file := by
  obtain ⟨data, hdata⟩ := read?_of_readText h
  obtain ⟨node, hlook⟩ := look_of_read? hdata
  rw [readFile, hlook]
  show (disk.readText file >>= _) = _
  rw [h]
  rfl

theorem readFile_of_hasDocument {document : Datum} (h : HasDocument disk file document) :
    readFile disk file = entriesOf file document := by
  obtain ⟨text, htext, hread⟩ := h
  rw [readFile_of_readText htext, hread]
  rfl

/-- The entries of a mapping stand in a mapping, unless it has a section for the compiler that is none. -/
theorem sectionOf_cases (entries : List (Datum × Datum)) :
    (∃ inner, sectionOf (.mapping entries) = .mapping inner) ∨
      ∃ found, lookupEntry "compiler" (Datum.mapping entries).fields = some found ∧ isMapping found = false := by
  cases hfound : lookupEntry "compiler" (Datum.mapping entries).fields with
  | none => exact .inl ⟨entries, by rw [sectionOf, hfound]⟩
  | some found =>
    cases hagain : Yaml.isMappingAgain found with
    | true => exact .inl ⟨entries, by rw [sectionOf, hfound]; exact if_pos hagain⟩
    | false =>
      cases found with
      | mapping inner => exact .inl ⟨inner, by rw [sectionOf, hfound]; rfl⟩
      | _ => exact .inr ⟨_, rfl, hagain⟩

theorem entriesOf_of_mapping {entries inner : List (Datum × Datum)}
    (h : sectionOf (.mapping entries) = .mapping inner) : ∃ found, entriesOf file (.mapping entries) = .ok found := by
  unfold entriesOf
  split
  · exact ⟨_, rfl⟩
  · rw [h]
    exact ⟨_, rfl⟩

theorem entriesOf_of_noSection {entries : List (Datum × Datum)} {found : Datum}
    (hfound : lookupEntry "compiler" (Datum.mapping entries).fields = some found) (h : isMapping found = false) :
    entriesOf file (.mapping entries) =
      .error (.exception "TypeError" (quote found.fullKindName ++ " object is not a mapping")) := by
  have hgiven : (Datum.mapping entries).isEmpty = false := by
    cases entries with
    | nil => cases hfound
    | cons entry entries => rfl
  have hsection : sectionOf (.mapping entries) = found := by
    rw [sectionOf, hfound]
    refine if_neg ?_
    cases found with
    | mapping inner => cases h
    | _ => exact Bool.eq_false_iff.1 h
  rw [entriesOf, hgiven, if_neg Bool.false_ne_true, hsection]
  cases found with
  | mapping inner => cases h
  | _ => rfl

/-- A document is refused if it is no mapping, and gets past if it has a section that is none. -/
theorem entriesOf_eq_error {document : Datum} (h : entriesOf file document = .error f) :
    (document.isEmpty = false ∧ (∀ entries, document ≠ .mapping entries) ∧
        f = .exception "ValueError" ("Settings file " ++ file.toString ++ " must contain a mapping")) ∨
      ∃ entries found, document = .mapping entries ∧
        lookupEntry "compiler" (Datum.mapping entries).fields = some found ∧ isMapping found = false := by
  by_cases hmapping : ∃ entries, document = .mapping entries
  · obtain ⟨entries, rfl⟩ := hmapping
    rcases sectionOf_cases entries with ⟨inner, hinner⟩ | ⟨found, hfound, hkind⟩
    · obtain ⟨found, hok⟩ := @entriesOf_of_mapping file entries inner hinner
      cases hok.symm.trans h
    · exact .inr ⟨entries, found, rfl, hfound, hkind⟩
  · have hno (entries : List (Datum × Datum)) : document ≠ .mapping entries := fun heq => hmapping ⟨entries, heq⟩
    unfold entriesOf at h
    split at h
    · cases h
    · rename_i hgiven
      split at h
      · exact absurd rfl (hno _)
      · cases h
        exact .inl ⟨by simpa using hgiven, hno, rfl⟩

/-- A document that is no mapping is refused, unless it counts as nothing given. -/
theorem entriesOf_of_noMapping {document : Datum} (hgiven : document.isEmpty = false)
    (h : ∀ entries, document ≠ .mapping entries) : entriesOf file document =
      .error (.exception "ValueError" ("Settings file " ++ file.toString ++ " must contain a mapping")) := by
  rw [entriesOf, hgiven, if_neg Bool.false_ne_true]
  exact h

/-! ## Loading -/

/-- What stands at a path has no text if it is a directory, or if its content is not in UTF-8. -/
theorem readText_eq_error {node : Node} (hnode : disk.node? file = some node) (h : disk.readText file = .error f) :
    (node = .directory ∧ f = .raised (Refusal.isDirectory.raised file)) ∨
      ∃ data fault, disk.read? file = some data ∧ decodeUtf8 data = .error fault ∧
        f = .exception "UnicodeDecodeError" fault.message := by
  unfold Disk.readText at h
  split at h
  · rename_i hnone
    cases h
    rw [Disk.read?, hnode] at hnone
    cases node with
    | directory => exact .inl ⟨rfl, rfl⟩
    | file data => cases hnone
    | archive entries => cases hnone
  · rename_i data hdata
    split at h
    · cases h
    · rename_i fault hfault
      cases h
      exact .inr ⟨data, fault, hdata, hfault, rfl⟩

/-- If a file gives no entries, settings are refused for that, or the failure gets past. -/
theorem readFile_eq_error (environment : List (String × String)) (h : readFile disk file = .error f) :
    Refused disk environment (some file) f ∨ Escapes disk file f := by
  rcases look_cases disk file with ⟨hnull, hlong⟩ | hlook
  · rw [readFile, Disk.look_of_tooLong hnull hlong] at h
    cases h
    exact .inr (.tooLong hnull hlong)
  cases hnode : disk.node? file with
  | none =>
    rw [hnode] at hlook
    rw [readFile, hlook] at h
    cases h
    exact .inl (.missing hlook)
  | some node =>
    cases htext : disk.readText file with
    | error g =>
      rw [hnode] at hlook
      rw [readFile, hlook] at h
      change (disk.readText file >>= _) = _ at h
      rw [htext] at h
      cases h
      rcases readText_eq_error hnode htext with ⟨rfl, rfl⟩ | ⟨data, fault, hdata, hfault, rfl⟩
      · exact .inr (.directory hnode)
      · exact .inl (.noText hdata hfault)
    | ok text =>
      rw [readFile_of_readText htext] at h
      cases hread : Yaml.readDocument text with
      | error why =>
        rw [hread] at h
        cases h
        cases Yaml.yields_readDocument text why hread with
        | rules => exact .inl (.noDocument htext hread)
        | value message => exact .inl (.noValue htext hread)
        | stray hstray => exact .inr (.stray htext hread hstray)
      | ok document =>
        rw [hread] at h
        rcases entriesOf_eq_error h with ⟨hgiven, hmapping, rfl⟩ | ⟨entries, found, rfl, hfound, hkind⟩
        · exact .inl (.noMapping ⟨text, htext, hread⟩ hgiven hmapping)
        · change entriesOf file _ = _ at h
          rw [entriesOf_of_noSection hfound hkind] at h
          cases h
          exact .inr (.noSection ⟨text, htext, hread⟩ hfound hkind)

theorem Escapes.readFile (h : Escapes disk file f) : readFile disk file = .error f := by
  cases h with
  | tooLong hnull h => rw [Settings.readFile, Disk.look_of_tooLong hnull h]
  | directory h =>
    rw [Settings.readFile, look_of_node? h]
    change (disk.readText file >>= _) = _
    rw [Disk.readText, Disk.read?, h]
    rfl
  | stray htext hread h =>
    rw [readFile_of_readText htext, hread]
    rfl
  | noSection hdocument hfound h => rw [readFile_of_hasDocument hdocument, entriesOf_of_noSection hfound h]

theorem load_of_readFile (h : readFile disk file = .error f) : load disk (some file) environment = .error f := by
  rw [load_eq, entriesIn, h]
  rfl

theorem Escapes.load (h : Escapes disk file f) (environment : List (String × String)) :
    load disk (some file) environment = .error f :=
  load_of_readFile h.readFile

theorem Refused.load (h : Refused disk environment path f) : load disk path environment = .error f := by
  cases h with
  | missing h => exact load_of_readFile (by rw [readFile, h])
  | noText hdata h =>
    obtain ⟨node, hlook⟩ := look_of_read? hdata
    refine load_of_readFile ?_
    rw [readFile, hlook]
    change (disk.readText _ >>= _) = _
    rw [Disk.readText, hdata]
    dsimp only
    rw [h]
    rfl
  | noDocument htext h =>
    refine load_of_readFile ?_
    rw [readFile_of_readText htext, h]
    rfl
  | noValue htext h =>
    refine load_of_readFile ?_
    rw [readFile_of_readText htext, h]
    rfl
  | noMapping hdocument hgiven h =>
    exact load_of_readFile (by rw [readFile_of_hasDocument hdocument, entriesOf_of_noMapping hgiven h])
  | faulty hentries h =>
    rw [load_eq, hentries]
    change (ofEntries _).orFail recordName = _
    rw [h]
    rfl

/-- Settings are refused, or a failure gets past; there is no other way to fail. -/
theorem load_eq_error (h : load disk path environment = .error f) :
    Refused disk environment path f ∨ ∃ file, path = some file ∧ Escapes disk file f := by
  rw [load_eq] at h
  cases hentries : entriesIn disk path with
  | ok entries =>
    rw [hentries] at h
    change (ofEntries _).orFail recordName = _ at h
    cases hsettings : ofEntries (mergeEntries entries (overrides environment)) with
    | ok settings =>
      rw [hsettings] at h
      cases h
    | faulty faults =>
      rw [hsettings] at h
      cases h
      exact .inl (.faulty hentries hsettings)
  | error g =>
    rw [hentries] at h
    cases h
    cases path with
    | none => cases hentries
    | some file =>
      rcases readFile_eq_error environment hentries with hrefused | hescapes
      · exact .inl hrefused
      · exact .inr ⟨file, rfl, hescapes⟩

/-- **How settings fail to be loaded.** A failure that callers are told of is one of those with which settings are
refused; any other is one that gets past, which depends on the file alone. -/
theorem load_error_iff (disk : Disk) (path : Option Path) (environment : List (String × String)) (f : Failure) :
    (load disk path environment = .error f ∧ isForeseen f = true ↔ Refused disk environment path f) ∧
      (load disk path environment = .error f ∧ isForeseen f = false ↔
        ∃ file, path = some file ∧ Escapes disk file f) := by
  refine ⟨⟨fun ⟨h, hforeseen⟩ => ?_, fun h => ⟨h.load, h.isForeseen⟩⟩, ⟨fun ⟨h, hforeseen⟩ => ?_, ?_⟩⟩
  · rcases load_eq_error h with hrefused | ⟨file, -, hescapes⟩
    · exact hrefused
    · exact absurd hforeseen (by simp [hescapes.not_isForeseen])
  · rcases load_eq_error h with hrefused | hescapes
    · exact absurd hrefused.isForeseen (by simp [hforeseen])
    · exact hescapes
  · rintro ⟨file, rfl, hescapes⟩
    exact ⟨hescapes.load environment, hescapes.not_isForeseen⟩

/-! ## A section without entries -/

/-- A settings file whose section for the compiler has nothing below it. -/
def bareSection : Disk := { nodes := [(["settings.yaml"], .file (encodeUtf8 "compiler:\n"))] }

/-- Whether a document is a mapping with nothing but an empty section for the compiler. -/
def isBare : Except Raised Datum → Bool
  | .ok (.mapping [(.text key, .null)]) => key = "compiler"
  | _ => false

theorem eq_of_isBare {result : Except Raised Datum} (h : isBare result = true) :
    result = .ok (.mapping [(.text "compiler", .null)]) := by
  unfold isBare at h
  split at h
  · rw [of_decide_eq_true h]
  · cases h

theorem bareSection_hasDocument :
    HasDocument bareSection { parts := ["settings.yaml"] } (.mapping [(.text "compiler", .null)]) := by
  refine ⟨"compiler:\n", ?_, eq_of_isBare (by decide +kernel)⟩
  have hdata : bareSection.read? { parts := ["settings.yaml"] } = some (encodeUtf8 "compiler:\n") := by decide +kernel
  rw [Disk.readText, hdata]
  dsimp only
  rw [decodeUtf8_encodeUtf8]
  rfl

/-- Nothing below a section is no mapping, and nobody is told that it makes this failure. -/
theorem bareSection_escapes :
    load bareSection (some { parts := ["settings.yaml"] }) [] =
        .error (.exception "TypeError" "'NoneType' object is not a mapping") ∧
      ¬ ∀ disk path environment f, load disk path environment = .error f → isForeseen f = true := by
  have hescapes : Escapes bareSection { parts := ["settings.yaml"] }
      (.exception "TypeError" "'NoneType' object is not a mapping") :=
    .noSection bareSection_hasDocument rfl rfl
  refine ⟨hescapes.load [], fun h => ?_⟩
  exact absurd (h _ _ _ _ (hescapes.load [])) (by simp [hescapes.not_isForeseen])

end UnitFoundry.Settings
