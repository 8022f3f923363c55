import UnitFoundry.Proofs.Backend.Sources

/-!
# More lenient options

Options are more lenient than others if they have the same target and level of optimization, all the lint categories
of the others, and take warnings for errors only if the others do. A source that is compiled with some options is
compiled with more lenient ones, to the same artifact. The same is reported but for the kinds of warnings, and no
warning becomes an error.

* `Options.Admits` — options that are more lenient than others;
* `Diagnostic.Softens` — a report that differs from another in its kind, and is not an error unless the other is;
* `Accepts.admits` — a source that is accepted stays accepted;
* `compileAll_admits` — **what more lenient options make of a source**.
-/

namespace UnitFoundry

open Script Text

/-- Options that are more lenient than others. -/
structure Options.Admits (lenient strict : Options) : Prop where
  target : lenient.target = strict.target
  optimize : lenient.optimize = strict.optimize
  lint : ∀ category ∈ strict.lint, category ∈ lenient.lint
  warningsAsErrors : lenient.warningsAsErrors = true → strict.warningsAsErrors = true

/-- A report that differs from another in its kind only, and is not an error unless the other is. -/
structure Diagnostic.Softens (d other : Diagnostic) : Prop where
  same : d = { other with kind := d.kind }
  isError : d.kind = .error → other.kind = .error

namespace Standard

variable {read : Reader} {lenient strict : Options} {source : File} {text uri : String} {c : Compilation}
  {s : Session}

/-! ## Warnings -/

theorem softens_report (h : lenient.Admits strict) (uri : String) (w : Warning) :
    (report lenient uri w).Softens (report strict uri w) := by
  refine ⟨rfl, fun herror => ?_⟩
  have hnot : w.category ∉ lenient.lint := by
    intro hlint
    rw [report, if_pos hlint] at herror
    cases herror
  have herrors : lenient.warningsAsErrors = true := by
    by_contra hnone
    rw [report, if_neg hnot, if_neg hnone] at herror
    cases herror
  show (if w.category ∈ strict.lint then _ else _) = _
  rw [if_neg fun hlint => hnot (h.lint _ hlint), if_pos (h.warningsAsErrors herrors)]

/-- A source that is accepted stays accepted. -/
theorem Accepts.admits (haccepts : Accepts strict uri c) (h : lenient.Admits strict) : Accepts lenient uri c := by
  rw [accepts_iff] at haccepts ⊢
  exact ⟨haccepts.1, fun herrors w hw => h.lint _ (haccepts.2 (h.warningsAsErrors herrors) w hw)⟩

/-! ## Artifacts -/

/-- In a session, the artifact of a source that was accepted is published if and only if a condition holds, whatever
has been reported and logged before. Apart from it, there are only notes. -/
def EmitsIf (options : Options) (source : File) (text : String) (script : Block) (s : Session) (p : Prop) : Prop :=
  ∀ scope found log, ∃ verdict notes t,
    (emitArtifact options source text script).run logDiagnostic scope found { s with log } =
      .ok (verdict, found ++ notes) t ∧
    (∀ d ∈ notes, d.kind = .note) ∧ (verdict = .ok true ↔ p) ∧
    (p → Publishes scope source.name (artifactOf options source.uri text) s t)

/-- The imports and the artifact decide. -/
theorem exists_emitsIf (options : Options) (source : File) (text : String) (script : Block) (hs : s.Sound) :
    ∃ p, EmitsIf options source text script s p := by
  by_cases hlead : ∀ p ∈ importedModules script, ∃ b, leads s p.2 = .ok b
  · obtain ⟨written, -, hemits⟩ := emitArtifact_of_leads hlead hs options source text
    refine ⟨written = .ok (), fun scope found log => ?_⟩
    obtain ⟨t, hrun, hpublishes⟩ := hemits scope found log
    refine ⟨_, _, t, hrun, fun d hd => kind_unresolved hd, ?_, hpublishes⟩
    cases written with
    | ok _ => exact iff_of_true rfl rfl
    | error r => exact iff_of_false nofun nofun
  · have hinterrupted : ∃ p ∈ importedModules script, ∃ f, leads s p.2 = .error f := by
      push Not at hlead
      obtain ⟨p, hp, hnot⟩ := hlead
      cases hsearch : leads s p.2 with
      | ok b => exact absurd hsearch (hnot b)
      | error f => exact ⟨p, hp, f, hsearch⟩
    refine ⟨False, fun scope found log => ?_⟩
    obtain ⟨f, notes, log', hcheck, hnotes⟩ :=
      run_checkImports_error (s := { s with log }) hinterrupted source.uri scope found
    exact ⟨.error f, notes, _, Program.run_bind_error _ hcheck, fun d hd => kind_unresolved (hnotes hd),
      iff_of_false nofun not_false, False.elim⟩

/-- A source is compiled if it is accepted and its artifact can be published. -/
theorem run_compileAll_singleton {options : Options} {p : Prop} (htext : source.text = .ok text)
    (hread : read options.target options.optimize text = .ok c)
    (hemits : ∀ script, c.result = .ok script → EmitsIf options source text script s p) (scope : ScopeId)
    (found : List Diagnostic) : ∃ verdict notes t,
      (compileAll read options [source]).run logDiagnostic scope found s =
        .ok (verdict, found ++ (rejections source.uri c ++ c.warnings.eraseDups.map (report options source.uri) ++
          notes)) t ∧
      (∀ d ∈ notes, d.kind = .note) ∧ (verdict = .ok true ↔ Accepts options source.uri c ∧ p) ∧
      (verdict = .ok true → Publishes scope source.name (artifactOf options source.uri text) s t) := by
  obtain ⟨log, hrun⟩ := run_of_read source htext hread scope found s
  rw [← compilationDiagnostics_eq, compileAll_singleton]
  by_cases haccepts : Accepts options source.uri c
  · obtain ⟨script, hscript⟩ := haccepts.1
    obtain ⟨verdict, notes, t, hemit, hnotes, hverdict, hpublishes⟩ :=
      hemits script hscript scope (found ++ compilationDiagnostics options source.uri c) log
    rw [conclude_of_accepts haccepts hscript, hemit, List.append_assoc] at hrun
    refine ⟨verdict, notes, t, ?_, hnotes, ?_, fun h => hpublishes (hverdict.1 h)⟩
    · cases verdict with
      | error f => exact Program.run_bind_error _ hrun
      | ok b =>
        refine (Program.run_bind_ok _ hrun).trans ?_
        rw [Bool.and_true]
        rfl
    · rw [hverdict, and_iff_right haccepts]
  · rw [conclude_of_not_accepts haccepts] at hrun
    refine ⟨.ok false, [], { s with log }, ?_, nofun, iff_of_false nofun fun h => haccepts h.1, nofun⟩
    rw [List.append_nil]
    exact (Program.run_bind_ok _ hrun).trans rfl

/-! ## Two runs -/

/-- **What more lenient options make of a source.** If it is compiled, it is compiled with them, to the same artifact.
The rejection is reported alike, and so are the warnings, but for their kinds; there are notes besides. -/
theorem compileAll_admits (read : Reader) (h : lenient.Admits strict) (source : File) (hs : s.Sound)
    (scope : ScopeId) (found : List Diagnostic) :
    ∃ verdict verdict' rejected warnings warnings' notes notes' t t',
      (compileAll read strict [source]).run logDiagnostic scope found s =
        .ok (verdict, found ++ (rejected ++ warnings ++ notes)) t ∧
      (compileAll read lenient [source]).run logDiagnostic scope found s =
        .ok (verdict', found ++ (rejected ++ warnings' ++ notes')) t' ∧
      (verdict = .ok true → verdict' = .ok true ∧ ∃ bytes,
        Publishes scope source.name bytes s t ∧ Publishes scope source.name bytes s t') ∧
      (∀ text c, source.text = .ok text → read strict.target strict.optimize text = .ok c →
        rejected = rejections source.uri c ∧
        warnings = c.warnings.eraseDups.map (report strict source.uri)) ∧
      List.Forall₂ Diagnostic.Softens warnings' warnings ∧ ∀ d ∈ notes ++ notes', d.kind = .note := by
  cases htext : source.text with
  | error f =>
    have hrun (options : Options) : (compileAll read options [source]).run logDiagnostic scope found s =
        .ok (.error f, found ++ []) s := by
      rw [List.append_nil, compileAll_singleton]
      exact Program.run_bind_error _ (run_of_text_error htext scope found s)
    exact ⟨_, _, [], [], [], [], [], s, s, hrun strict, hrun lenient, nofun, nofun, .nil, nofun⟩
  | ok text =>
  cases hread : read strict.target strict.optimize text with
  | error r =>
    have hrun (options : Options) (hread : read options.target options.optimize text = .error r) :
        (compileAll read options [source]).run logDiagnostic scope found s =
          .ok (.error (.raised r), found ++ []) s := by
      rw [List.append_nil, compileAll_singleton]
      exact Program.run_bind_error _ (run_of_read_error htext hread scope found s)
    refine ⟨_, _, [], [], [], [], [], s, s, hrun strict hread, hrun lenient ?_, nofun, ?_, .nil, nofun⟩
    · rw [h.target, h.optimize, hread]
    · rintro _ c ⟨⟩ hother
      cases hread.symm.trans hother
  | ok c =>
    have hemits : ∃ p, ∀ script, c.result = .ok script → EmitsIf strict source text script s p := by
      cases hresult : c.result with
      | error rejection => exact ⟨False, nofun⟩
      | ok script =>
        obtain ⟨p, hp⟩ := exists_emitsIf strict source text script hs
        exact ⟨p, fun _ hscript => Except.ok.inj hscript ▸ hp⟩
    obtain ⟨p, hp⟩ := hemits
    have hlenient : ∀ script, c.result = .ok script → EmitsIf lenient source text script s p := by
      intro script hscript
      unfold EmitsIf artifactOf
      rw [emitArtifact_congr h.optimize, h.optimize]
      exact hp script hscript
    have hread' : read lenient.target lenient.optimize text = .ok c := by rw [h.target, h.optimize, hread]
    obtain ⟨verdict, notes, t, hrun, hnotes, hverdict, hpublishes⟩ :=
      run_compileAll_singleton htext hread hp scope found
    obtain ⟨verdict', notes', t', hrun', hnotes', hverdict', hpublishes'⟩ :=
      run_compileAll_singleton htext hread' hlenient scope found
    refine ⟨verdict, verdict', _, _, _, notes, notes', t, t', hrun, hrun', fun hok => ?_, ?_, ?_,
      List.forall_mem_append.2 ⟨hnotes, hnotes'⟩⟩
    · obtain ⟨haccepts, hgiven⟩ := hverdict.1 hok
      have hok' := hverdict'.2 ⟨haccepts.admits h, hgiven⟩
      have hbytes := hpublishes' hok'
      rw [artifactOf, h.optimize] at hbytes
      exact ⟨hok', _, hpublishes hok, hbytes⟩
    · rintro _ _ ⟨⟩ hother
      cases hread.symm.trans hother
      exact ⟨rfl, rfl⟩
    · rw [List.forall₂_map_left_iff, List.forall₂_map_right_iff]
      exact List.forall₂_same.2 fun w _ => softens_report h source.uri w

/-! ### A warning about the syntax -/

/-- Options with which warnings are no errors. -/
def tolerant : Options := { warningsAsErrors := false }

/-- Options with which warnings about the syntax are mandatory, and others no errors. -/
def attentive : Options := { warningsAsErrors := false, lint := ["SyntaxWarning"] }

/-- A source about which there is a warning. -/
def doubtful : File := File.source "p.A_ts1" "x = 1\ny = x is 1\n"

/-- It is compiled with the ones, and so with the others. -/
theorem doubtful_compiles : (attentive.Admits tolerant ∧ Session.Sound {}) ∧ ∃ reports t bytes,
    (compileAll readScript attentive [doubtful]).run logDiagnostic 0 [] {} = .ok (.ok true, reports) t ∧
    Publishes 0 "p.A_ts1" bytes {} t := by
  have hadmits : attentive.Admits tolerant := ⟨rfl, rfl, nofun, fun _ => by contradiction⟩
  have hsound : Session.Sound {} := Session.isFresh_empty.sound
  have hverdict : verdict? ((compileAll readScript tolerant [doubtful]).run logDiagnostic 0 [] {}) = some true := by
    decide +kernel
  obtain ⟨verdict, verdict', rejected, warnings, warnings', notes, notes', t, t', hrun, hrun', hsuccess, -⟩ :=
    compileAll_admits readScript hadmits doubtful hsound 0 []
  rw [hrun] at hverdict
  cases verdict with
  | error f => cases hverdict
  | ok b =>
    cases hverdict
    obtain ⟨rfl, bytes, -, hpublishes⟩ := hsuccess rfl
    exact ⟨⟨hadmits, hsound⟩, _, t', bytes, hrun', hpublishes⟩

end Standard

end UnitFoundry
