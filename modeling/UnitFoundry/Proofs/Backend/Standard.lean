import UnitFoundry.Backend.Standard
import UnitFoundry.Proofs.Backend.Programs

/-!
# What the standard backend comes to

The standard backend reads a source, reports what it has found, and emits an artifact unless one of its
reports is an error. Which reports are errors is a matter of the options: warnings are errors if the
options say so and their category is not one of the lint categories. Everything else depends on the
target version, the level of optimization and the files alone.

* `accepts_iff` — when a source is accepted, in terms of what the reader has found;
* `Publishes`, `emitArtifact_of_checkImports` — one artifact is published, after the search for the imports;
* `ends_of_raised`, `run_of_rejected`, `ends_of_accepted` — **what the backend comes to** if the reader
  raises, if the source is rejected, and if it is accepted;
* `run_of_accepted` — the context that a success has published.
-/

namespace UnitFoundry.Standard

open Script Text

variable {read : Reader} {options : Options} {name text uri : String} {c : Compilation} {s : Session}

/-! ## Acceptance -/

/-- A source is accepted: there is a script, and nothing that was found is an error. -/
def Accepts (options : Options) (uri : String) (c : Compilation) : Prop :=
  (∃ script, c.result = .ok script) ∧
    (compilationDiagnostics options uri c).any Diagnostic.isError = false

theorem mem_firstWarnings {seen found : List Warning} {w : Warning} :
    w ∈ firstWarnings seen found ↔ w ∈ found ∧ w ∉ seen := by
  induction found generalizing seen with
  | nil => simp [firstWarnings]
  | cons first rest ih =>
    by_cases hseen : first ∈ seen
    · simp only [firstWarnings, List.contains_iff_mem, hseen, if_true, ih, List.mem_cons]
      constructor
      · rintro ⟨hw, hnot⟩
        exact ⟨.inr hw, hnot⟩
      · rintro ⟨rfl | hw, hnot⟩
        · exact absurd hseen hnot
        · exact ⟨hw, hnot⟩
    · simp only [firstWarnings, List.contains_iff_mem, hseen, if_false, List.mem_cons, ih]
      by_cases heq : w = first
      · subst heq
        simp [hseen]
      · simp [heq]

/-- Each warning is reported. -/
theorem mem_compilationDiagnostics {w : Warning} (hw : w ∈ c.warnings) :
    warningDiagnostic options uri w ∈ compilationDiagnostics options uri c := by
  refine List.mem_append_right _ (List.mem_map.2 ⟨w, ?_, rfl⟩)
  exact mem_firstWarnings.2 ⟨hw, List.not_mem_nil⟩

theorem isError_warningDiagnostic (w : Warning) : (warningDiagnostic options uri w).isError ↔
    options.warningsAsErrors ∧ w.category ∉ options.lint := by
  unfold warningDiagnostic warningKind Diagnostic.isError
  by_cases hlint : w.category ∈ options.lint
  · simp [hlint]
  · cases options.warningsAsErrors with
    | true => simp [hlint]
    | false => simp [hlint]

/-- **When a source is accepted**: there is a script, and if warnings are errors, then all warnings are of
lint categories. -/
theorem accepts_iff : Accepts options uri c ↔ (∃ script, c.result = .ok script) ∧
    (options.warningsAsErrors → ∀ w ∈ c.warnings, w.category ∈ options.lint) := by
  refine and_congr_right fun hresult => ?_
  obtain ⟨script, hscript⟩ := hresult
  rw [List.any_eq_false]
  constructor
  · intro hnone herrors w hw
    by_contra hlint
    exact hnone _ (mem_compilationDiagnostics hw) ((isError_warningDiagnostic w).2 ⟨herrors, hlint⟩)
  · intro hlint d hd herror
    unfold compilationDiagnostics at hd
    rw [hscript] at hd
    obtain ⟨w, hw, rfl⟩ := List.mem_map.1 hd
    obtain ⟨herrors, hnot⟩ := (isError_warningDiagnostic w).1 herror
    exact hnot (hlint herrors w (mem_firstWarnings.1 hw).1)

/-- A source is not accepted for an error that is reported. -/
theorem any_isError_of_not_accepts (hnot : ¬ Accepts options uri c) :
    (compilationDiagnostics options uri c).any Diagnostic.isError = true := by
  cases hresult : c.result with
  | error rejection =>
    refine List.any_eq_true.2 ⟨rejectionDiagnostic uri rejection, ?_, rfl⟩
    rw [compilationDiagnostics, hresult]
    exact List.mem_append_left _ (List.mem_singleton_self _)
  | ok script =>
    refine Bool.not_eq_false _ ▸ fun hnone => ?_
    exact hnot ⟨⟨script, hresult⟩, hnone⟩

/-! ## Imports -/

theorem looks_isUnit (name : String) : (isUnit name).Looks := .candidates ..

theorem looks_isPackage (name : String) : (isPackage name).Looks := .candidates ..

theorem looks_isResource (name : String) : (isResource name).Looks := by
  refine .ask trivial fun answer hanswer => ?_
  cases answer with
  | ok file => exact .done true
  | error f =>
    obtain ⟨r, rfl⟩ | ⟨path, location, rfl⟩ := hanswer f rfl
    · exact .fail r
    · exact .done false

theorem looks_isResolvable (name : String) : (isResolvable name).Looks := by
  refine (looks_isUnit name).bind fun unit => ?_
  cases unit with
  | true => exact .done true
  | false =>
    refine (looks_isPackage name).bind fun package => ?_
    cases package with
    | true => exact .done true
    | false =>
      refine (looks_isResource name).bind fun resource => ?_
      cases resource with
      | true => exact .done true
      | false => exact .done _

theorem looks_checkImports (uri : String) (imports : List (Nat × String)) :
    (checkImports uri imports).Looks := by
  induction imports with
  | nil => exact .done ()
  | cons first rest ih =>
    obtain ⟨line, name⟩ := first
    refine (looks_isResolvable name).bind fun resolvable => ?_
    cases resolvable with
    | true => exact ih
    | false => exact (Program.Looks.report _).bind fun _ => ih

/-! ## What the backend comes to -/

theorem run_reportAll (ds : List Diagnostic) (scope : ScopeId) (found : List Diagnostic) (t : Session) :
    ∃ log, (reportAll ds).run logDiagnostic scope found t = .ok (.ok (), found ++ ds) { t with log } := by
  induction ds generalizing found t with
  | nil => exact ⟨t.log, by rw [List.append_nil]; rfl⟩
  | cons d rest ih =>
    obtain ⟨log, hreport⟩ := Program.run_report d scope found t
    obtain ⟨log', hrest⟩ := ih (found ++ [d]) { t with log }
    rw [List.append_assoc] at hrest
    exact ⟨log', (Program.run_bind_ok _ hreport).trans hrest⟩

/-- What becomes of a source that was accepted: an exception ends the search for its imports, or its
artifact is emitted. If the backend reports success, the artifact was emitted. -/
theorem exists_ends_emitArtifact (options : Options) (source : File) (text : String) (script : Block)
    (s : Session) : ∃ e, (emitArtifact options source text script).Ends s e ∧
      ((∃ r, e.verdict = .error r) ∨ e.verdict = .ok true ∧ ∃ bytes,
        e.contexts = s.contexts ++ [Emission.emittedContext source.name bytes] ∧
        e.registry = s.registry.replace (UnitName.canonical source.name) s.contexts.length) := by
  let data := artifactOf options source.uri text
  have hrecorded : ∀ (_ : Unit) scope found t, ∃ log, (do
      let _ ← Program.request (.log .debug .builtin (emittedText source.name data.length))
      pure true : Program Bool).run logDiagnostic scope found t =
        .ok (.ok true, found) { t with log } := by
    intro _ scope found t
    obtain ⟨log, hlog⟩ := Program.run_log .debug .builtin (emittedText source.name data.length)
      scope found t
    exact ⟨log, Program.run_bind_ok _ hlog⟩
  obtain ⟨emitted, bytes, hemit⟩ := Emission.ends_emit source.name data (some source) s
  have hrest := hemit.bind_value _ (fun _ => true) hrecorded
  obtain ⟨verdict, hends⟩ := (looks_checkImports source.uri (importedModules script)).ends_bind
    fun _ => hrest
  refine ⟨_, hends, ?_⟩
  cases verdict with
  | error r => exact .inl ⟨r, rfl⟩
  | ok _ =>
    cases emitted with
    | error r => exact .inl ⟨r, rfl⟩
    | ok _ => exact .inr ⟨rfl, bytes, rfl, rfl⟩

/-- One artifact is published, and nothing else: the context is new, active, and remembered by the scope. -/
structure Publishes (scope : ScopeId) (name : String) (bytes : Bytes) (s t : Session) : Prop where
  contexts : t.contexts = s.contexts ++ [Emission.emittedContext name bytes]
  registry : t.registry = s.registry.replace (UnitName.canonical name) s.contexts.length
  scopes : t.scopes = Emission.remembered (some scope) name s.contexts.length s.scopes

/-- Records make no difference. -/
theorem Publishes.of_log {scope : ScopeId} {bytes : Bytes} {t : Session} {log : List Record}
    (h : Publishes scope name bytes { s with log } t) : Publishes scope name bytes s t :=
  ⟨h.contexts, h.registry, h.scopes⟩

/-- After the search for the imports, the artifact is published, if it can be written. Whether it can does not depend
on the run. -/
theorem emitArtifact_of_checkImports (options : Options) (source : File) (text : String) (script : Block) :
    ∃ written : Except Raised Unit,
      ((artifactOf options source.uri text).length < Writer.memoryLimit → written = .ok ()) ∧
      ∀ {scope : ScopeId} {found all : List Diagnostic} {t : Session} {log : List Record}, t.Sound →
        (checkImports source.uri (importedModules script)).run logDiagnostic scope found t =
          .ok (.ok (), all) { t with log } →
        ∃ u, (emitArtifact options source text script).run logDiagnostic scope found t =
            .ok ((written.mapError Failure.raised).map fun _ => true, all) u ∧
          (written = .ok () → Publishes scope source.name (artifactOf options source.uri text) t u) := by
  let data := artifactOf options source.uri text
  obtain ⟨written, bytes, hbytes, hfits, hemits⟩ := Emission.run_emit source.name data (some source)
  refine ⟨written, hfits, fun {scope found all t log} ht hcheck => ?_⟩
  obtain ⟨u, hemit, hcontexts, hregistry, hscopes⟩ := hemits scope all { t with log } (ht.congr rfl rfl rfl)
  cases written with
  | error r => exact ⟨u, (Program.run_bind_ok _ hcheck).trans (Program.run_bind_error _ hemit), nofun⟩
  | ok _ =>
    obtain rfl := hbytes rfl
    obtain ⟨log', hlog⟩ := Program.run_log .debug .builtin (emittedText source.name data.length) scope all u
    refine ⟨{ u with log := log' }, ?_, fun _ => ⟨hcontexts, hregistry, hscopes⟩⟩
    exact (Program.run_bind_ok _ hcheck).trans <| (Program.run_bind_ok _ hemit).trans <| Program.run_bind_ok _ hlog

/-- A run that emits an artifact ends with an exception, or with a success that has added one context and
published it. -/
theorem run_emitArtifact (options : Options) (source : File) (text : String) (script : Block)
    (scope : ScopeId) (found : List Diagnostic) {t : Session} (ht : t.Sound) :
    ∃ (verdict : Except Raised Bool) (all : List Diagnostic) (u : Session),
      (emitArtifact options source text script).run logDiagnostic scope found t =
        .ok (verdict.mapError Failure.raised, all) u ∧
      ∀ b, verdict = .ok b → b = true ∧ ∃ bytes, Publishes scope source.name bytes t u := by
  obtain ⟨checked, more, hchecked⟩ := (looks_checkImports source.uri (importedModules script)).run t
  obtain ⟨log, hcheck⟩ := hchecked scope found t (.refl t)
  cases checked with
  | error r => exact ⟨.error r, _, _, Program.run_bind_error _ hcheck, nofun⟩
  | ok _ =>
    obtain ⟨written, -, hemits⟩ := emitArtifact_of_checkImports options source text script
    obtain ⟨u, hemit, hpublishes⟩ := hemits ht hcheck
    cases written with
    | error r => exact ⟨.error r, _, u, hemit, nofun⟩
    | ok _ => exact ⟨.ok true, _, u, hemit, fun b hb => ⟨(Except.ok.inj hb).symm, _, hpublishes rfl⟩⟩

theorem compileAll_singleton (source : File) : compileAll read options [source] =
    (compileSource read options source >>= fun compiled => pure (compiled && true)) := rfl

/-- A text that cannot be had ends everything. -/
theorem run_of_text_error {f : Failure} {source : File} (h : source.text = .error f) (scope : ScopeId)
    (found : List Diagnostic) (s : Session) :
    (compileSource read options source).run logDiagnostic scope found s = .ok (.error f, found) s := by
  have htext : (Program.ofExcept source.text).run logDiagnostic scope found s = .ok (.error f, found) s := by
    rw [h]
    exact Program.run_ofExcept _
  exact Program.run_bind_error _ htext

/-- So does a reader that fails. -/
theorem run_of_read_error {source : File} {r : Raised} (htext : source.text = .ok text)
    (h : read options.target options.optimize text = .error r) (scope : ScopeId) (found : List Diagnostic)
    (s : Session) :
    (compileSource read options source).run logDiagnostic scope found s = .ok (.error (.raised r), found) s := by
  have htextRead : (Program.ofExcept source.text).run logDiagnostic scope found s = .ok (.ok text, found) s := by
    rw [htext]
    exact Program.run_ofExcept _
  have hraised : (Program.ofExcept ((read options.target options.optimize text).mapError Failure.raised)).run
      logDiagnostic scope found s = .ok (.error (.raised r), found) s := by
    rw [h]
    exact Program.run_ofExcept _
  exact (Program.run_bind_ok _ htextRead).trans (Program.run_bind_error _ hraised)

/-- If the reader raises, so does the backend. -/
theorem ends_of_raised (name : String) {r : Raised} (hread : read options.target options.optimize text = .error r)
    (s : Session) : (compileAll read options [File.source name text]).Ends s
      ⟨.error r, s.contexts, s.registry⟩ := by
  intro scope found t hst _
  have htext : (File.source name text).text = .ok text := rfl
  have hrun := run_of_read_error htext hread scope found t
  refine ⟨[], t, ?_, hst.contexts, hst.registry, rfl⟩
  rw [List.append_nil, compileAll_singleton]
  exact Program.run_bind_error _ hrun

/-- What the reader has found is reported, and decides how the backend goes on. -/
theorem run_of_read (source : File) (htext : source.text = .ok text)
    (hread : read options.target options.optimize text = .ok c) (scope : ScopeId) (found : List Diagnostic)
    (t : Session) : ∃ log, (compileSource read options source).run logDiagnostic scope found t =
      (conclude options source text c).run logDiagnostic scope
        (found ++ compilationDiagnostics options source.uri c) { t with log } := by
  obtain ⟨log, hreport⟩ := run_reportAll (compilationDiagnostics options source.uri c) scope found t
  refine ⟨log, ?_⟩
  show (Program.ofExcept source.text >>= fun text =>
    Program.ofExcept ((read options.target options.optimize text).mapError Failure.raised) >>=
      fun c => reportAll (compilationDiagnostics options source.uri c) >>=
        fun _ => conclude options source text c).run logDiagnostic scope found t = _
  rw [htext]
  show (Program.ofExcept ((read options.target options.optimize text).mapError Failure.raised) >>=
    fun c => reportAll (compilationDiagnostics options source.uri c) >>=
      fun _ => conclude options source text c).run logDiagnostic scope found t = _
  rw [hread]
  exact Program.run_bind_ok _ hreport

/-- A source that is not accepted gives no artifact. -/
theorem conclude_of_not_accepts {source : File} (hnot : ¬ Accepts options source.uri c) :
    conclude options source text c = .done false := by
  unfold conclude
  cases hresult : c.result with
  | error rejection => rfl
  | ok script => exact if_pos (any_isError_of_not_accepts hnot)

/-- A source that is accepted gives one. -/
theorem conclude_of_accepts {source : File} (haccepts : Accepts options source.uri c) {script : Block}
    (hscript : c.result = .ok script) :
    conclude options source text c = emitArtifact options source text script := by
  unfold conclude
  rw [hscript]
  exact if_neg (Bool.eq_false_iff.1 haccepts.2)

/-- A source that is not accepted is rejected, and nothing but the reports is left behind. -/
theorem run_of_rejected (name : String) (hread : read options.target options.optimize text = .ok c)
    (hnot : ¬ Accepts options (File.source name text).uri c) (scope : ScopeId)
    (found : List Diagnostic) (t : Session) : ∃ log,
      (compileAll read options [File.source name text]).run logDiagnostic scope found t =
        .ok (.ok false, found ++ compilationDiagnostics options (File.source name text).uri c)
          { t with log } := by
  obtain ⟨log, hrun⟩ := run_of_read (File.source name text) rfl hread scope found t
  rw [conclude_of_not_accepts hnot] at hrun
  exact ⟨log, (Program.run_bind_ok _ hrun).trans rfl⟩

/-- A source that is accepted has its artifact emitted. -/
theorem ends_of_accepted {e : Upshot Bool} (hread : read options.target options.optimize text = .ok c)
    (haccepts : Accepts options (File.source name text).uri c) {script : Block}
    (hscript : c.result = .ok script)
    (hends : (emitArtifact options (File.source name text) text script).Ends s e) :
    (compileAll read options [File.source name text]).Ends s e := by
  have hsource : (compileSource read options (File.source name text)).Ends s e := by
    intro scope found t hst ht
    obtain ⟨log, hrun⟩ := run_of_read (File.source name text) rfl hread scope found t
    rw [conclude_of_accepts haccepts hscript] at hrun
    obtain ⟨more, u, hemit, hu⟩ := hends scope _ _ (hst.logged log) (ht.congr rfl rfl rfl)
    rw [hemit, List.append_assoc] at hrun
    exact ⟨_, u, hrun, hu.contexts, hu.registry, hu.scopes⟩
  have hvalue := hsource.bind_value (fun compiled => pure (compiled && true))
    (fun compiled => compiled && true) fun compiled scope found t => ⟨t.log, rfl⟩
  have hsame : e.verdict.map (fun compiled => compiled && true) = e.verdict := by
    cases e.verdict with
    | error r => rfl
    | ok compiled => exact congrArg Except.ok (Bool.and_true compiled)
  rw [hsame] at hvalue
  exact hvalue

/-- A run on a source that is accepted goes on with its artifact. -/
theorem run_of_accepted (name : String)
    (hread : read options.target options.optimize text = .ok c)
    (haccepts : Accepts options (File.source name text).uri c) (scope : ScopeId)
    (found : List Diagnostic) {t : Session} (ht : t.Sound) :
    ∃ (verdict : Except Raised Bool) (all : List Diagnostic) (u : Session),
      (compileAll read options [File.source name text]).run logDiagnostic scope found t =
        .ok (verdict.mapError Failure.raised, all) u ∧
      ∀ b, verdict = .ok b → b = true ∧ ∃ bytes, Publishes scope name bytes t u := by
  obtain ⟨script, hscript⟩ := haccepts.1
  obtain ⟨log, hrun⟩ := run_of_read (File.source name text) rfl hread scope found t
  obtain ⟨verdict, all, u, hemit, hemitted⟩ := run_emitArtifact options (File.source name text) text script
    scope (found ++ compilationDiagnostics options (File.source name text).uri c)
    (ht.congr (t := { t with log }) rfl rfl rfl)
  rw [conclude_of_accepts haccepts hscript, hemit] at hrun
  refine ⟨verdict, all, u, ?_, fun b hb => ?_⟩
  · rw [compileAll_singleton]
    cases verdict with
    | error r => exact Program.run_bind_error _ hrun
    | ok b =>
      refine (Program.run_bind_ok _ hrun).trans ?_
      rw [Bool.and_true]
      rfl
  · obtain ⟨htrue, bytes, hpublishes⟩ := hemitted b hb
    exact ⟨htrue, bytes, hpublishes.of_log⟩

/-- The artifact of a source depends on the options in their level of optimization only. -/
theorem emitArtifact_congr {options options' : Options} (h : options'.optimize = options.optimize)
    (source : File) (text : String) (script : Block) :
    emitArtifact options' source text script = emitArtifact options source text script := by
  unfold emitArtifact artifactOf
  rw [h]

end UnitFoundry.Standard
