import UnitFoundry.Proofs.CommandLine.Precedence
import UnitFoundry.Proofs.Compiler.Failures
import UnitFoundry.Proofs.Settings.Failures
import UnitFoundry.Proofs.Setup.Failures

/-!
# What the compile command exits with

The compile command is to exit with zero if the unit was compiled, with one and all diagnostics if it was rejected,
and with two and a line of the error if anything else went wrong. It deals with the errors of the library, with faulty
values and with what the file system refuses. Other failures end it without a line, and they arise on every layer: a
settings file that is no document, a directory that is too deep, a backend that is named by a relative name or turns
out to be a command, a place in the home directory of somebody unknown, a backend that fails, a body whose failure has
no words.

* `isHandled` — the failures that the command deals with;
* `Promised` — how the command is to exit;
* `Unread`, `load_unhandled_iff` — the settings files that are not dealt with;
* `compileStart_fails_iff` — how the command fails before it compiles;
* `Uncaught`, `uncaught_iff` — **the failures that are not dealt with**, layer by layer;
* `exits_as_promised_iff` — **the command exits as it is to unless one of them arises**;
* `unknownAlias_escapes` — a settings file that is no document.
-/

namespace UnitFoundry.CommandLine

open Script Text

variable {around : Surroundings} {environment : List (String × String)} {source name text : String}
  {r : CompileRequest} {s t : Session} {backend : Backend} {disk : Disk} {path : Option Path} {f : Failure}
  {outcome : EStateM.Result Failure Session ModuleId}

/-! ## What is dealt with -/

/-- Whether the command deals with the exceptions of a kind itself. -/
def isHandledKind (kind : String) : Bool := isKind kind "ValueError" || isKind kind "OSError"

/-- Whether the command deals with a failure itself: the errors of the library, faulty values, and what the file
system refuses. -/
def isHandled : Failure → Bool
  | .error _ => true
  | f => f.isKindOf "ValueError" || f.isKindOf "OSError"

theorem isHandled_raised (why : Raised) : isHandled (.raised why) = isHandledKind why.kind := rfl

theorem isHandled_exception (kind message : String) :
    isHandled (.exception kind message) = isHandledKind kind := rfl

theorem isHandled_of_isSystem {why : Raised} (h : isKind why.kind "OSError" = true) :
    isHandled (.raised why) = true := by
  rw [isHandled_raised, isHandledKind, h, Bool.or_true]

/-- What leaves the program is not dealt with. -/
theorem isHandled_of_leaving (h : f.isOrdinary = false) : isHandled f = false := by
  have hnone : ∀ kind ∈ leavingKinds, isHandledKind kind = false := by decide +kernel
  have hkind {kind : String} (hleaving : (!leavingKinds.contains kind) = false) : isHandledKind kind = false :=
    hnone kind (by simpa using hleaving)
  cases f with
  | error | invalid => cases h
  | raised | thrown => exact hkind h

theorem ne_error_of_not_isHandled (h : isHandled f = false) : ∀ e, f ≠ .error e := by
  rintro e rfl
  cases h

/-- How the command is to exit after a compilation. -/
structure Promised (around : Surroundings) (name : String) (outcome : EStateM.Result Failure Session ModuleId)
    (report : Report) : Prop where
  compiled : report.status = 0 ↔ ∃ m t, outcome = .ok m t
  rejected : report.status = 1 ↔ ∃ e found t, outcome = .error (.error e) t ∧ e.kind = .compilation found
  /-- All diagnostics of a rejection are printed, in their order. -/
  diagnostics : ∀ e found t, outcome = .error (.error e) t → e.kind = .compilation found →
    report.output = String.join
      ((paint .red true ("Compilation of " ++ name ++ " failed") :: found.map diagnosticLine).map around.line)
  /-- Any other failure is told in a line. -/
  failed : ∀ f t, outcome = .error f t → (∀ e found, f = .error e → e.kind ≠ .compilation found) →
    report.status = 2 ∧ report.output = around.line (paint .red true ("Error: " ++ f.message))
  traceless : report.escaped = none

theorem line_ne_empty (around : Surroundings) (s : String) : around.line s ≠ "" := by
  intro hempty
  have hlist := congrArg String.toList hempty
  rw [Surroundings.line, String.toList_append] at hlist
  exact absurd (List.append_eq_nil_iff.1 hlist).2 (by decide)

/-! ## Reports -/

/-- What a session begins with in which a unit is compiled by the command. -/
def begun (around : Surroundings) (r : CompileRequest) : Session :=
  { disk := around.disk, level := if r.verbose then .debug else .warning }

/-- What is no error of the library is told in a line, or ends the command. -/
theorem refused_eq (report : Report) (h : ∀ e, f ≠ .error e) : Report.refused around report name f =
    if isHandled f then
      { report with status := 2, output := around.line (paint .red true ("Error: " ++ f.message)) }
    else report.ended f := by
  cases f with
  | error e => exact absurd rfl (h e)
  | invalid | raised | thrown => rfl

/-- A failure that is dealt with is reported as it is to be. -/
theorem promised_of_isHandled {report : Report} (hreport : report.escaped = none) (h : isHandled f = true) :
    Promised around name (.error f t) (Report.refused around report name f) := by
  by_cases hrejected : ∃ e found, f = .error e ∧ e.kind = .compilation found
  · obtain ⟨e, found, rfl, hkind⟩ := hrejected
    have hrefused : Report.refused around report name (.error e) = { report with
        status := 1
        output := String.join ((paint .red true ("Compilation of " ++ name ++ " failed") ::
          found.map diagnosticLine).map around.line) } := by
      rw [Report.refused]
      simp only [hkind]
    rw [hrefused]
    refine ⟨by simp, by simp [hkind], ?_, ?_, hreport⟩
    · rintro e' found' t' ⟨⟩ hkind'
      cases hkind.symm.trans hkind'
      rfl
    · rintro f' t' ⟨⟩ hother
      exact absurd hkind (hother e found rfl)
  · have hrefused : Report.refused around report name f = { report with
        status := 2, output := around.line (paint .red true ("Error: " ++ f.message)) } := by
      cases f with
      | error e =>
        rw [Report.refused]
        split
        · rename_i found hkind
          exact absurd ⟨e, found, rfl, hkind⟩ hrejected
        · rfl
      | invalid | raised | thrown => exact (refused_eq report (by rintro _ ⟨⟩)).trans (if_pos h)
    rw [hrefused]
    refine ⟨by simp, ?_, ?_, ?_, hreport⟩
    · refine ⟨fun hone => absurd hone (by decide : (2 : Int) ≠ 1), ?_⟩
      rintro ⟨e, found, _, ⟨⟩, hkind⟩
      exact absurd ⟨e, found, rfl, hkind⟩ hrejected
    · rintro e found _ ⟨⟩ hkind
      exact absurd ⟨e, found, rfl, hkind⟩ hrejected
    · rintro _ _ ⟨⟩ -
      exact ⟨rfl, rfl⟩

/-- A failure that ends the command makes it exit with one, or nothing is printed for it. -/
theorem ended_cases (report : Report) (f : Failure) :
    (report.ended f).status = 1 ∨ (report.ended f).output = report.output := by
  cases f with
  | error | invalid | thrown => exact .inl rfl
  | raised why =>
    rw [Report.ended]
    by_cases hexit : why.kind = "SystemExit"
    · rw [if_pos hexit]
      cases why.argument with
      | absent => exact .inr rfl
      | whole n => exact .inr rfl
      | something => exact .inl rfl
    · rw [if_neg hexit]
      split
      · exact .inl rfl
      · exact .inl rfl

/-- The command does not exit as it is to with a failure that is not dealt with. -/
theorem not_promised_of_ended {report : Report} (hreport : report.output = "") (h : isHandled f = false) :
    ¬ Promised around name (.error f t) (report.ended f) := by
  intro hpromised
  obtain ⟨htwo, hline⟩ := hpromised.failed f t rfl fun e found heq =>
    absurd heq (ne_error_of_not_isHandled h e)
  rcases ended_cases report f with hone | hsilent
  · rw [hone] at htwo
    cases htwo
  · exact line_ne_empty around _ (hline.symm.trans (hsilent.trans hreport))

theorem promised_ok {m : ModuleId} {report : Report} (hstatus : report.status = 0) (hescaped : report.escaped = none) :
    Promised around name (.ok m t) report := by
  refine ⟨by simp [hstatus], ?_, ?_, ?_, hescaped⟩
  · rw [hstatus]
    refine ⟨fun hone => absurd hone (by decide : (0 : Int) ≠ 1), ?_⟩
    rintro ⟨e, found, t, ⟨⟩, -⟩
  · rintro e found t ⟨⟩
  · rintro f t ⟨⟩

/-- The command without a path to what is called, for files that are there. -/
theorem runCompile_eq (hcall : r.call.getD "" = "") (hsource : namesFile around.disk source = true)
    (hconfig : ∀ word ∈ r.config, namesFile around.disk word = true) : runCompile around source name r =
      match compileUnit around.environment source name r (begun around r) with
      | .error failure s => Report.refused around { log := s.log, disk := s.disk } name failure
      | .ok _ s =>
        { output := around.line (paint .green true ("Compiled " ++ name ++ " -> " ++ UnitName.canonical name))
          log := s.log, disk := s.disk } := by
  have hfiles : (!namesFile around.disk source || r.config.any fun path => !namesFile around.disk path) = false := by
    rw [hsource, Bool.not_true, Bool.false_or]
    cases hword : r.config with
    | none => rfl
    | some word => simp [hconfig word hword]
  rw [runCompile, hfiles, if_neg Bool.false_ne_true, hcall]
  rfl

/-! ## Settings files -/

/-- How a settings file is not read without being refused. -/
inductive Unread (disk : Disk) (file : Path) : Failure → Prop where
  /-- It is no document. -/
  | noDocument {text : String} (htext : disk.readText file = .ok text)
    (h : Yaml.readDocument text = .error Yaml.unreadable) : Unread disk file (.raised Yaml.unreadable)
  /-- The reader of documents stumbles over it. -/
  | stray {text : String} {why : Raised} (htext : disk.readText file = .ok text)
    (hread : Yaml.readDocument text = .error why) (h : Yaml.Stray why) : Unread disk file (.raised why)
  /-- Its section for the compiler is no mapping. -/
  | noSection {entries : List (Datum × Datum)} {found : Datum}
    (hdocument : Settings.HasDocument disk file (.mapping entries))
    (hfound : lookupEntry "compiler" (Datum.mapping entries).fields = some found)
    (h : Settings.isMapping found = false) :
    Unread disk file (.exception "TypeError" (quote found.fullKindName ++ " object is not a mapping"))

theorem Unread.not_isHandled {file : Path} (h : Unread disk file f) : isHandled f = false := by
  cases h with
  | noDocument => decide
  | @stray text why htext hread h =>
    have hkinds : ∀ kind ∈ ["OverflowError", "IndexError", "KeyError", "AttributeError", "RecursionError"],
        isHandledKind kind = false := by decide
    exact hkinds why.kind h.kind_mem
  | noSection => exact (isHandled_exception "TypeError" _).trans (by decide)

/-- Settings that cannot be loaded are dealt with, or their file is not read. -/
theorem handled_or_unread (h : Settings.load disk path environment = .error f) :
    isHandled f = true ∨ ∃ file, path = some file ∧ Unread disk file f := by
  have hkinds : ∀ kind ∈ ["FileNotFoundError", "UnicodeDecodeError", "ValueError", "ValidationError"],
      isHandledKind kind = true := by decide
  rcases Settings.load_eq_error h with hrefused | ⟨file, rfl, hescapes⟩
  · cases hrefused with
    | missing => exact .inl (hkinds "FileNotFoundError" (by decide))
    | noText => exact .inl (hkinds "UnicodeDecodeError" (by decide))
    | noDocument htext hread => exact .inr ⟨_, rfl, .noDocument htext hread⟩
    | noValue => exact .inl (hkinds "ValueError" (by decide))
    | noMapping => exact .inl (hkinds "ValueError" (by decide))
    | faulty => exact .inl (hkinds "ValidationError" (by decide))
  · cases hescapes with
    | tooLong => exact .inl (isHandled_of_isSystem (DurableStore.isSystem_raised _ _ _))
    | directory => exact .inl (isHandled_of_isSystem (DurableStore.isSystem_raised _ _ _))
    | stray htext hread hstray => exact .inr ⟨file, rfl, .stray htext hread hstray⟩
    | noSection hdocument hfound hkind => exact .inr ⟨file, rfl, .noSection hdocument hfound hkind⟩

/-- **The settings files that are not dealt with**, whatever the environment says. -/
theorem load_unhandled_iff : (Settings.load disk path environment = .error f ∧ isHandled f = false) ↔
    ∃ file, path = some file ∧ Unread disk file f := by
  constructor
  · rintro ⟨h, hother⟩
    exact (handled_or_unread h).resolve_left (by simp [hother])
  · rintro ⟨file, rfl, h⟩
    refine ⟨?_, h.not_isHandled⟩
    cases h with
    | noDocument htext h => exact (Settings.Refused.noDocument htext h).load
    | stray htext hread h => exact (Settings.Escapes.stray htext hread h).load environment
    | noSection hdocument hfound h => exact (Settings.Escapes.noSection hdocument hfound h).load environment

/-! ## Before the compilation -/

/-- A source that is there has no text only if it is not in UTF-8, which is dealt with. -/
theorem isHandled_of_readText (hsource : namesFile disk source = true)
    (h : disk.readText (Path.ofString source) = .error f) : isHandled f = true := by
  have hsome : (disk.read? (Path.ofString source)).isSome = true := by
    rw [namesFile] at hsource
    simp only [Bool.and_eq_true] at hsource
    exact hsource.2
  obtain ⟨data, hdata⟩ := Option.isSome_iff_exists.1 hsome
  obtain ⟨node, hnode, -⟩ := Option.bind_eq_some_iff.1 hdata
  rcases Settings.readText_eq_error hnode h with ⟨-, rfl⟩ | ⟨_, _, -, -, rfl⟩
  · exact isHandled_of_isSystem (DurableStore.isSystem_raised _ _ _)
  · exact (isHandled_exception "UnicodeDecodeError" _).trans (by decide)

/-- A change of the policy that is refused is dealt with. -/
theorem isHandled_versionFailure (asked : String) : isHandled (versionFailure asked) = true :=
  (by decide : isHandledKind "ValidationError" = true)

/-- **How the command fails before it compiles** with what is not dealt with: the settings cannot be loaded, or no
compiler can be set up from them. -/
theorem compileStart_fails_iff (hsource : namesFile s.disk source = true) (hf : isHandled f = false) :
    (∃ t, compileStart environment source r s = .error f t) ↔
      Settings.load s.disk (r.config.map Path.ofString) environment = .error f ∨
        ∃ settings, Settings.load s.disk (r.config.map Path.ofString) environment = .ok settings ∧
          Setup.Fails s.disk settings f := by
  rw [compileStart, Action.bind_ok (Action.get_apply s)]
  cases hload : Settings.load s.disk (r.config.map Path.ofString) environment with
  | error g =>
    rw [Action.bind_error (Action.ofExcept_error g s)]
    constructor
    · rintro ⟨t, ⟨⟩⟩
      exact .inl rfl
    · rintro (⟨⟨⟩⟩ | ⟨_, ⟨⟩, -⟩)
      exact ⟨s, rfl⟩
  | ok settings =>
    rw [Action.bind_ok (Action.ofExcept_ok settings s)]
    constructor
    · rintro ⟨t, h⟩
      rcases Action.bind_eq_error.1 h with hsetup | ⟨b, u, -, h⟩
      · exact .inr ⟨settings, rfl, Setup.ofSettings_fails_iff.1 ⟨t, hsetup⟩⟩
      -- nothing after the setting up fails with what is not dealt with
      rcases Action.bind_eq_error.1 h with hconfigure | ⟨_, v, -, h⟩
      · obtain ⟨asked, -, rfl, -⟩ := Compiler.configure_eq_error.1 hconfigure
        cases (isHandled_versionFailure asked).symm.trans hf
      obtain ⟨_, w, -, h⟩ := (Action.bind_eq_error.1 h).resolve_left (by rintro ⟨⟩)
      cases htext : s.disk.readText (Path.ofString source) with
      | error g =>
        rw [htext] at h
        cases h
        cases (isHandled_of_readText hsource htext).symm.trans hf
      | ok text =>
        rw [htext] at h
        cases h
    · rintro (⟨⟨⟩⟩ | ⟨_, ⟨⟩, hfails⟩)
      obtain ⟨t, hsetup⟩ := Setup.ofSettings_fails_iff.2 hfails
      exact ⟨t, Action.bind_error hsetup⟩

/-- What is compiled in is as fresh as what the command began with. -/
theorem isFresh_of_compileStart (hs : s.IsFresh) (h : compileStart environment source r s = .ok (backend, text) t) :
    t.IsFresh := by
  have hapart : Setup.IsApart fun s => (s.contexts, s.registry, s.writers, s.scopes, s.modules, s.history) :=
    ⟨fun _ _ => rfl, fun _ _ => rfl, fun _ _ => rfl, fun _ _ _ => rfl⟩
  have hkeeps : (keeping fun s => (s.contexts, s.registry, s.writers, s.scopes, s.modules, s.history)).Keeps
      (compileStart environment source r) :=
    keeping_get.bind fun _ _ => (keeping_result _).bind fun settings _ =>
      (Setup.keeping_ofSettings hapart (fun _ _ => rfl) settings none).bind fun _ _ =>
        (keeping_configure (fun _ _ => rfl) r.change).bind fun _ _ =>
          (keeping_get.bind fun _ _ => keeping_logged (fun _ _ => rfl) _ _ _).bind fun _ _ =>
            (keeping_result _).bind fun _ _ => .pure _
  have hsame := eq_of_keeping hkeeps h
  simp only [Prod.mk.injEq] at hsame
  obtain ⟨hcontexts, hregistry, hwriters, hscopes, hmodules, hhistory⟩ := hsame
  exact ⟨hcontexts.trans hs.contexts, hregistry.trans hs.registry, hwriters.trans hs.writers,
    hscopes.trans hs.scopes, hmodules.trans hs.modules, hhistory.trans hs.history⟩

/-! ## Compilers that cannot be set up -/

/-- The failure of a place in the home directory of somebody unknown. -/
def noHome : Failure := .exception "RuntimeError" "Could not determine home directory."

/-- How a compiler cannot be set up from settings without this being dealt with. -/
inductive Unequipped (disk : Disk) (settings : Settings) : Failure → Prop where
  /-- More directories are missing for the side store than there is room for calls. -/
  | tooDeep (h : (Setup.opened disk settings).2 = some Disk.nestedTooDeep) :
    Unequipped disk settings (.raised Disk.nestedTooDeep)
  /-- The backend is in a module with a relative name. -/
  | relative {place member : String} (hstore : (Setup.opened disk settings).2 = none)
    (hpath : Catalogue.installed.IsPath settings.backend place member) (hdot : beginsWith place "." = true) :
    Unequipped disk settings (Catalogue.relativeName place)
  /-- The backend is something that leaves the program when it is called. -/
  | command {f : Failure} (hstore : (Setup.opened disk settings).2 = none)
    (hsearched : Catalogue.installed.IsSearched settings.backend)
    (hfound : Catalogue.installed.target settings.backend = .ok (.failing f)) (hexit : f.isOrdinary = false) :
    Unequipped disk settings f
  /-- A place is in the home directory of somebody unknown. -/
  | homeless {b : Backend} (hstore : (Setup.opened disk settings).2 = none)
    (hbackend : Catalogue.installed.find (some settings.backend) = .ok b)
    (h : (settle (Setup.opened disk settings).1 settings.resourcePath).failure = some noHome) :
    Unequipped disk settings noHome

variable {settings : Settings}

/-- What is named by a path with a colon is not built in. -/
theorem isSearched_of_isPath {spec place member : String} (h : Catalogue.installed.IsPath spec place member) :
    Catalogue.installed.IsSearched spec := by
  have hcolon := h.colon
  refine ⟨?_, lookupEntry_eq_none fun entry hentry => ?_⟩
  · rintro rfl
    exact absurd hcolon (by decide)
  · obtain rfl := List.mem_singleton.1 hentry
    rintro rfl
    exact absurd hcolon (by decide)

theorem expandHome_eq_error {place : Path} (h : expandHome place = .error f) : f = noHome := by
  unfold expandHome at h
  split at h
  · cases h
  · split at h
    · split at h
      · cases h
      · split at h
        · cases h
          rfl
        · cases h
    · cases h

theorem isSystem_of_look {place : Path} {why : Raised} (h : disk.look place = .error why) :
    isKind why.kind "OSError" = true := by
  unfold Disk.look at h
  split at h
  · cases h
  · split at h
    · cases h
    · cases h
      exact DurableStore.isSystem_raised _ _ _
    · cases h

/-- A compiler that cannot be set up is dealt with, but for four ways. -/
theorem handled_or_unequipped (h : Setup.Fails disk settings f) :
    isHandled f = true ∨ Unequipped disk settings f := by
  cases h with
  | @noStore why h =>
    obtain ⟨directory, hmade⟩ := Setup.madeDirectories_of_opened h
    rcases DurableStore.failure_of_makeDirectories hmade with hsystem | ⟨-, ⟨rfl, -⟩ | ⟨rfl, -⟩⟩
    · exact .inl (isHandled_of_isSystem hsystem)
    · exact .inl ((isHandled_raised _).trans (by decide))
    · exact .inr (.tooDeep h)
  | noBackend hstore h =>
    rcases Catalogue.find_cases Catalogue.installed (some settings.backend) with
      ⟨b, hok⟩ | ⟨why, hfails, hunavailable⟩ | ⟨spec, why, ⟨⟩, hsearched, hleaves, hfails⟩
    · cases hok.symm.trans h
    · cases hfails.symm.trans h
      cases f with
      | error e => exact .inl rfl
      | invalid | raised | thrown => cases hunavailable
    · cases hfails.symm.trans h
      rcases hleaves.of_unbroken rfl with ⟨_, -, rfl⟩ | ⟨_, _, hpath, hdot, rfl⟩ | ⟨hfound, hexit⟩
      · exact .inl ((isHandled_raised _).trans (by decide))
      · exact .inr (.relative hstore hpath hdot)
      · exact .inr (.command hstore hsearched hfound hexit)
  | noPlaces hstore hbackend h =>
    rcases Setup.settle_failure h with ⟨place, -, hhome⟩ | ⟨place, why, hlook, rfl⟩
    · obtain rfl := expandHome_eq_error hhome
      exact .inr (.homeless hstore hbackend h)
    · exact .inl (isHandled_of_isSystem (isSystem_of_look hlook))

/-- **The compilers that cannot be set up without this being dealt with.** -/
theorem fails_unhandled_iff :
    (Setup.Fails disk settings f ∧ isHandled f = false) ↔ Unequipped disk settings f := by
  constructor
  · rintro ⟨h, hother⟩
    exact (handled_or_unequipped h).resolve_left (by simp [hother])
  · intro h
    cases h with
    | tooDeep h => exact ⟨.noStore h, by decide⟩
    | relative hstore hpath hdot =>
      exact ⟨.noBackend hstore (Catalogue.find_of_leaves (isSearched_of_isPath hpath) (.relative hpath hdot)),
        (isHandled_exception "TypeError" _).trans (by decide)⟩
    | command hstore hsearched hfound hexit =>
      exact ⟨.noBackend hstore (Catalogue.find_of_leaves hsearched (.exitCall hfound hexit)),
        isHandled_of_leaving hexit⟩
    | homeless hstore hbackend h => exact ⟨.noPlaces hstore hbackend h, by decide⟩

/-! ## The whole command -/

/-- **The failures that are not dealt with**, layer by layer. -/
inductive Uncaught (around : Surroundings) (source name : String) (r : CompileRequest) : Failure → Prop where
  /-- The settings file is not read. -/
  | settings {word : String} {f : Failure} (hconfig : r.config = some word)
    (h : Unread around.disk (Path.ofString word) f) : Uncaught around source name r f
  /-- No compiler can be set up from the settings. -/
  | setup {settings : Settings} {f : Failure}
    (hload : Settings.load around.disk (r.config.map Path.ofString) around.environment = .ok settings)
    (h : Unequipped around.disk settings f) : Uncaught around source name r f
  /-- The backend fails with what is not dealt with. -/
  | backend {b : Backend} {text : String} {t : Session} {i : Compiler.Invocation} {f : Failure}
    (hstart : compileStart around.environment source r (begun around r) = .ok (b, text) t)
    (hi : i ∈ Compiler.invocations b name text t) (ha : i.answer = .error f) (hf : isHandled f = false) :
    Uncaught around source name r f
  /-- What was compiled is loaded, and fails with what is not dealt with. -/
  | loading {b : Backend} {text : String} {t u : Session} {id : ContextId} {f : Failure}
    (hstart : compileStart around.environment source r (begun around r) = .ok (b, text) t)
    (hpasses : Compiler.PassesOn b name text t id u f) (hescapes : Loader.Escapes u id)
    (hf : isHandled f = false) : Uncaught around source name r f

/-- **What the command fails with that is not dealt with** arises in these ways only. -/
theorem uncaught_iff (hsource : namesFile around.disk source = true) :
    ((∃ t, compileUnit around.environment source name r (begun around r) = .error f t) ∧ isHandled f = false) ↔
      Uncaught around source name r f := by
  have hfresh : (begun around r).IsFresh := ⟨rfl, rfl, rfl, rfl, rfl, rfl⟩
  have hstarts (hf : isHandled f = false) :
      (∃ t, compileStart around.environment source r (begun around r) = .error f t) ↔ _ :=
    compileStart_fails_iff hsource hf
  have hcompile {b : Backend} {text : String} {t : Session} (hf : isHandled f = false)
      (hstart : compileStart around.environment source r (begun around r) = .ok (b, text) t) :
      (∃ u, Compiler.compile b name text t = .error f u) ↔ _ :=
    Compiler.compile_fails_iff (.fresh (isFresh_of_compileStart hfresh hstart)) (ne_error_of_not_isHandled hf)
  rw [compileUnit_eq]
  constructor
  · rintro ⟨⟨t, h⟩, hf⟩
    rcases Action.bind_eq_error.1 h with hstart | ⟨⟨b, text⟩, u, hstart, hcompiles⟩
    · rcases (hstarts hf).1 ⟨t, hstart⟩ with hload | ⟨settings, hload, hsetup⟩
      · obtain ⟨file, hfile, hunread⟩ := load_unhandled_iff.1 ⟨hload, hf⟩
        obtain ⟨word, hword, rfl⟩ := Option.map_eq_some_iff.1 hfile
        exact .settings hword hunread
      · exact .setup hload (fails_unhandled_iff.1 ⟨hsetup, hf⟩)
    · rcases (hcompile hf hstart).1 ⟨t, hcompiles⟩ with ⟨i, hi, ha⟩ | ⟨id, v, hpasses, hescapes⟩
      · exact .backend hstart hi ha hf
      · exact .loading hstart hpasses hescapes hf
  · intro h
    cases h with
    | @settings word _ hconfig h =>
      have hpath : r.config.map Path.ofString = some (Path.ofString word) := by rw [hconfig, Option.map_some]
      obtain ⟨hload, hf⟩ : Settings.load around.disk (r.config.map Path.ofString) around.environment = .error f ∧
          isHandled f = false := load_unhandled_iff.2 ⟨_, hpath, h⟩
      obtain ⟨t, hstart⟩ := (hstarts hf).2 (.inl hload)
      exact ⟨⟨t, Action.bind_error hstart⟩, hf⟩
    | setup hload h =>
      obtain ⟨hsetup, hf⟩ := fails_unhandled_iff.2 h
      obtain ⟨t, hstart⟩ := (hstarts hf).2 (.inr ⟨_, hload, hsetup⟩)
      exact ⟨⟨t, Action.bind_error hstart⟩, hf⟩
    | backend hstart hi ha hf =>
      obtain ⟨t, hfails⟩ := (hcompile hf hstart).2 (.inl ⟨_, hi, ha⟩)
      exact ⟨⟨t, (Action.bind_ok hstart).trans hfails⟩, hf⟩
    | loading hstart hpasses hescapes hf =>
      obtain ⟨t, hfails⟩ := (hcompile hf hstart).2 (.inr ⟨_, _, hpasses, hescapes⟩)
      exact ⟨⟨t, (Action.bind_ok hstart).trans hfails⟩, hf⟩

/-- **The command exits as it is to unless a failure arises that it does not deal with**, and then it ends with
this failure. -/
theorem exits_as_promised_iff (hcall : r.call.getD "" = "") (hsource : namesFile around.disk source = true)
    (hconfig : ∀ word ∈ r.config, namesFile around.disk word = true) :
    (Promised around name (compileUnit around.environment source name r (begun around r))
        (runCompile around source name r) ↔ ∀ f, ¬ Uncaught around source name r f) ∧
      ∀ f, Uncaught around source name r f →
        ∃ t, compileUnit around.environment source name r (begun around r) = .error f t ∧
          runCompile around source name r = Report.ended { log := t.log, disk := t.disk } f := by
  have hends : ∀ f, Uncaught around source name r f →
      ∃ t, compileUnit around.environment source name r (begun around r) = .error f t ∧ isHandled f = false ∧
        runCompile around source name r = Report.ended { log := t.log, disk := t.disk } f := by
    intro f h
    obtain ⟨⟨t, hfails⟩, hf⟩ := (uncaught_iff hsource).2 h
    refine ⟨t, hfails, hf, ?_⟩
    rw [runCompile_eq hcall hsource hconfig, hfails]
    exact (refused_eq _ (ne_error_of_not_isHandled hf)).trans (if_neg (by simp [hf]))
  refine ⟨⟨fun hpromised f h => ?_, fun hnone => ?_⟩, fun f h => ?_⟩
  · obtain ⟨t, hfails, hf, hreport⟩ := hends f h
    rw [hfails, hreport] at hpromised
    exact not_promised_of_ended rfl hf hpromised
  · rw [runCompile_eq hcall hsource hconfig]
    cases houtcome : compileUnit around.environment source name r (begun around r) with
    | ok m t => exact promised_ok rfl rfl
    | error f t =>
      cases hf : isHandled f with
      | true => exact promised_of_isHandled rfl hf
      | false => exact absurd ((uncaught_iff hsource).1 ⟨⟨t, houtcome⟩, hf⟩) (hnone f)
  · obtain ⟨t, hfails, -, hreport⟩ := hends f h
    exact ⟨t, hfails, hreport⟩

/-- A source, a settings file, and a file with an alias for what is not there. -/
def aliasDesk : Surroundings :=
  { disk := { nodes := [
      (["g.py"], .file (encodeUtf8 "x = 1\n")),
      (["s.yaml"], .file (encodeUtf8 "lint_recovery: true\n")),
      (["t.yaml"], .file (encodeUtf8 "a: *b\n"))] } }

/-- With the settings file the command exits as it is to, and nothing arises that it does not deal with. -/
theorem exits_as_promised_settings :
    let r : CompileRequest := { config := some "s.yaml" }
    (runCompile aliasDesk "g.py" "p.A_ts1" r).status = 0 ∧ ∀ f, ¬ Uncaught aliasDesk "g.py" "p.A_ts1" r f := by
  intro r
  have hsource : namesFile aliasDesk.disk "g.py" = true := by decide +kernel
  have hconfig : ∀ word ∈ r.config, namesFile aliasDesk.disk word = true := by decide +kernel
  obtain ⟨hiff, -⟩ : (Promised aliasDesk "p.A_ts1" _ (runCompile aliasDesk "g.py" "p.A_ts1" r) ↔ _) ∧ _ :=
    exits_as_promised_iff rfl hsource hconfig
  have hstatus : (runCompile aliasDesk "g.py" "p.A_ts1" r).status = 0 := by decide +kernel
  have hrun : (compileUnit aliasDesk.environment "g.py" "p.A_ts1" r).run' (begun aliasDesk r) = some 0 := by
    decide +kernel
  obtain ⟨t, hcompiled⟩ := Action.exists_of_run hrun
  refine ⟨hstatus, hiff.1 ?_⟩
  rw [hcompiled]
  exact promised_ok hstatus (by decide +kernel)

/-- With the other file it ends without a line, for this is no document. -/
theorem unknownAlias_escapes :
    let r : CompileRequest := { config := some "t.yaml" }
    r.call = none ∧ namesFile aliasDesk.disk "g.py" = true ∧
      (∀ word ∈ r.config, namesFile aliasDesk.disk word = true) ∧
      (runCompile aliasDesk "g.py" "p.A_ts1" r).escaped.map Failure.label = some "YAMLError" ∧
      ¬ Promised aliasDesk "p.A_ts1"
        (compileUnit aliasDesk.environment "g.py" "p.A_ts1" r (begun aliasDesk r))
        (runCompile aliasDesk "g.py" "p.A_ts1" r) := by
  intro r
  have hescapes : (runCompile aliasDesk "g.py" "p.A_ts1" r).escaped.map Failure.label = some "YAMLError" := by
    decide +kernel
  refine ⟨rfl, by decide +kernel, by decide +kernel, hescapes, fun hpromised => ?_⟩
  rw [hpromised.traceless] at hescapes
  cases hescapes

end UnitFoundry.CommandLine
