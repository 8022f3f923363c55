import UnitFoundry.Proofs.Backend.Sources
import UnitFoundry.Proofs.Compiler.Attempts
import UnitFoundry.Proofs.Session.Candidates
import UnitFoundry.Proofs.Session.Slots

/-!
# Imports of published units

Before an artifact is emitted, the search for an imported name goes through the files of its package, for one with
the same canonical name. When the unit is loaded, the name is looked up in the registry instead. With nothing but
published units around, the search finds a file exactly if the registry finds a context; and whatever else is around,
no import is noted as one that leads nowhere while the registry has a context for it.

* `any_activeArtifacts_iff` — the search through the active contexts;
* `hasUnit_of_find?`, `hasUnit_eq` — what the search finds, with other files around and without;
* `exists_run_compileSource` — what is noted about a source are imports that lead nowhere;
* `Arises.imports_agree` — **the search agrees with the registry**, and so do the notes of compilations.
-/

namespace UnitFoundry

open Script Text

variable {s : Session} {name : String}

namespace Standard

/-! ## The search for a unit -/

/-- The search through the active contexts looks at those of one package, but finds one whenever there is any. -/
theorem any_activeArtifacts_iff (hlabelled : ∀ c ∈ s.contexts, c.artifact.name = c.qualified) (name : String) :
    ((Overlay.activeArtifacts s (UnitName.package name) false).any
        fun file => UnitName.canonical file.name = UnitName.canonical name) = true ↔
      ∃ c ∈ s.active, c.canonical = UnitName.canonical name := by
  have hname {c : Context} (hc : c ∈ s.active) : c.artifact.name = c.qualified := by
    obtain ⟨id, -, hget⟩ := Session.mem_active.1 hc
    exact hlabelled c (List.mem_of_getElem? hget)
  rw [List.any_eq_true]
  constructor
  · rintro ⟨_, hfile, hcanonical⟩
    obtain ⟨c, hc, rfl⟩ := List.mem_map.1 hfile
    have hc : c ∈ s.active := (List.mem_filter.1 hc).1
    rw [decide_eq_true_eq, hname hc] at hcanonical
    exact ⟨c, hc, hcanonical⟩
  · rintro ⟨c, hc, hcanonical⟩
    have hpackage : UnitName.package c.qualified = UnitName.package name := by
      rw [← UnitName.package_canonical, ← UnitName.package_canonical name]
      exact congrArg UnitName.package hcanonical
    refine ⟨c.artifact, List.mem_map_of_mem (List.mem_filter.2 ⟨hc, ?_⟩), ?_⟩
    · simp [Overlay.inPackage, hpackage]
    · rw [decide_eq_true_eq, hname hc]
      exact hcanonical

/-- **A unit that the registry has is found**, whatever files there are besides. -/
theorem hasUnit_of_find? (hlabelled : ∀ c ∈ s.contexts, c.artifact.name = c.qualified) (hkeyed : s.Keyed)
    (hslotted : s.Slotted) (hlines : s.NamedByLines) (hfind : (s.registry.find? name).isSome = true) :
    hasUnit s name = .ok true := by
  have hactive := (any_activeArtifacts_iff hlabelled name).2
    ((Session.isSome_find?_iff hkeyed hslotted hlines name).1 hfind)
  have hany : (Overlay.candidatesIn s .classPath (UnitName.package name) FileKind.all false).files.any
      (fun file => UnitName.canonical file.name = UnitName.canonical name) = true := by
    simp only [Overlay.candidatesIn, Listing.after, List.any_append]
    rw [if_pos (by decide), hactive]
    simp
  rw [hasUnit, Listing.any, if_pos hany]

/-- No file in memory is on the class path. -/
def HasNoClassFiles (s : Session) : Prop :=
  ∀ entry ∈ s.overlay,
    beginsWith entry.1 (UnitName.uriScheme ++ ":///" ++ Location.classPath.label ++ "/") = false

instance (s : Session) : Decidable (HasNoClassFiles s) := List.decidableBAll _ _

/-- **Without other files, nothing else is found.** -/
theorem hasUnit_eq (hlabelled : ∀ c ∈ s.contexts, c.artifact.name = c.qualified) (hkeyed : s.Keyed)
    (hslotted : s.Slotted) (hlines : s.NamedByLines) (hfiles : HasNoClassFiles s) (hplaces : s.resources.places = [])
    (name : String) : hasUnit s name = .ok (s.registry.find? name).isSome := by
  have hoverlay : Overlay.overlayFiles s .classPath (UnitName.package name) FileKind.all false = [] := by
    have hnone : (s.overlay.filter fun entry =>
        beginsWith entry.1 (UnitName.uriScheme ++ ":///" ++ Location.classPath.label ++ "/")) = [] :=
      List.filter_eq_nil_iff.2 fun entry hentry => by rw [hfiles entry hentry]; exact Bool.false_ne_true
    show List.filter _ (List.map _ (s.overlay.filter fun entry => beginsWith entry.1 _)) = []
    rw [hnone]
    rfl
  have hlisting : Overlay.candidatesIn s .classPath (UnitName.package name) FileKind.all false =
      { files := Overlay.activeArtifacts s (UnitName.package name) false } := by
    rw [Overlay.candidatesIn, hoverlay, ResourcePath.list, hplaces]
    show ({ files := [] ++ (if _ then _ else _) ++ [] } : Listing) = _
    rw [if_pos (by decide), List.nil_append, List.append_nil]
  have hany := (any_activeArtifacts_iff hlabelled name).trans
    (Session.isSome_find?_iff hkeyed hslotted hlines name).symm
  rw [← Bool.eq_iff_iff] at hany
  rw [hasUnit, hlisting, Listing.any, hany]
  cases (s.registry.find? name).isSome <;> rfl

/-! ## Notes -/

variable {read : Reader} {options : Options} {source : File}

theorem kind_report (options : Options) (uri : String) (w : Warning) : (report options uri w).kind ≠ .note := by
  unfold report
  by_cases hlint : w.category ∈ options.lint
  · simp [hlint]
  · by_cases hstrict : options.warningsAsErrors <;> simp [hlint, hstrict]

/-- What is found about a source itself is no note. -/
theorem kind_compilationDiagnostics {uri : String} {c : Compilation} {d : Diagnostic}
    (hd : d ∈ compilationDiagnostics options uri c) : d.kind ≠ .note := by
  rw [compilationDiagnostics_eq] at hd
  rcases List.mem_append.1 hd with hd | hd
  · cases hresult : c.result with
    | ok script => simp [rejections, hresult] at hd
    | error rejection =>
      have hrejection : d = rejectionDiagnostic uri rejection := by simpa [rejections, hresult] using hd
      simp [hrejection, rejectionDiagnostic]
  · obtain ⟨w, -, rfl⟩ := List.mem_map.1 hd
    exact kind_report options uri w

/-- **What is noted about a source are imports that lead nowhere**, whatever the run ends with. -/
theorem exists_run_compileSource (read : Reader) (options : Options) (source : File) (scope : ScopeId)
    (found : List Diagnostic) (hs : s.Sound) : ∃ verdict reports t,
      (compileSource read options source).run logDiagnostic scope found s = .ok (verdict, found ++ reports) t ∧
      ∀ d ∈ reports, d.kind = .note → ∃ imports, d ∈ unresolved s source.uri imports := by
  cases htext : source.text with
  | error f => exact ⟨.error f, [], s, by rw [List.append_nil]; exact run_of_text_error htext scope found s, nofun⟩
  | ok text =>
  cases hread : read options.target options.optimize text with
  | error r =>
    exact ⟨_, [], s, by rw [List.append_nil]; exact run_of_read_error htext hread scope found s, nofun⟩
  | ok c =>
  obtain ⟨log, hrun⟩ := run_of_read source htext hread scope found s
  -- the reports on the source itself come first, and are no notes
  have hnotes {imports : List (Nat × String)} {more : List Diagnostic}
      (hmore : more ⊆ unresolved s source.uri imports) :
      ∀ d ∈ compilationDiagnostics options source.uri c ++ more, d.kind = .note →
        ∃ imports, d ∈ unresolved s source.uri imports := by
    intro d hd hkind
    rcases List.mem_append.1 hd with hd | hd
    · exact absurd hkind (kind_compilationDiagnostics hd)
    · exact ⟨imports, hmore hd⟩
  by_cases haccepts : Accepts options source.uri c
  · obtain ⟨script, hscript⟩ := haccepts.1
    rw [conclude_of_accepts haccepts hscript] at hrun
    by_cases hlead : ∀ p ∈ importedModules script, ∃ b, leads s p.2 = .ok b
    · obtain ⟨written, -, hemits⟩ := emitArtifact_of_leads hlead hs options source text
      obtain ⟨t, hemit, -⟩ := hemits scope (found ++ compilationDiagnostics options source.uri c) log
      rw [hemit, List.append_assoc] at hrun
      exact ⟨_, _, t, hrun, hnotes (List.Subset.refl _)⟩
    · have hinterrupted : ∃ p ∈ importedModules script, ∃ f, leads s p.2 = .error f := by
        push Not at hlead
        obtain ⟨p, hp, hnot⟩ := hlead
        cases hsearch : leads s p.2 with
        | ok b => exact absurd hsearch (hnot b)
        | error f => exact ⟨p, hp, f, hsearch⟩
      obtain ⟨f, more, log', hcheck, hmore⟩ := run_checkImports_error (s := { s with log }) hinterrupted source.uri
        scope (found ++ compilationDiagnostics options source.uri c)
      rw [List.append_assoc] at hcheck
      exact ⟨_, _, _, hrun.trans (Program.run_bind_error _ hcheck), hnotes hmore⟩
  · rw [conclude_of_not_accepts haccepts] at hrun
    have hnotes := hnotes (List.nil_subset (unresolved s source.uri []))
    rw [List.append_nil] at hnotes
    exact ⟨_, _, _, hrun, hnotes⟩

/-- A name that is noted leads to no unit. -/
theorem hasUnit_of_leads (h : leads s name = .ok false) : hasUnit s name ≠ .ok true := by
  intro hunit
  rw [leads, hunit] at h
  cases h

theorem eq_of_unresolvedDiagnostic_eq {uri uri' other : String} {line line' : Nat}
    (h : unresolvedDiagnostic uri line name = unresolvedDiagnostic uri' line' other) : name = other := by
  have hmessage := congrArg (String.toList ∘ Diagnostic.message) h
  simpa [unresolvedDiagnostic, String.toList_append, String.toList_inj] using hmessage

end Standard

/-! ## Compilations -/

namespace Compiler

open Standard

variable {read : Reader} {source : String} {i : Invocation}

/-- What is noted while a source is compiled are imports that lead nowhere when the backend starts. -/
theorem exists_unresolved_of_reports (hs : s.Sound) (hi : i ∈ invocations (Backend.reading read) name source s)
    {d : Diagnostic} (hd : d ∈ i.reports (Backend.reading read) name source) (hkind : d.kind = .note) :
    ∃ uri imports, d ∈ unresolved (i.start name source) uri imports := by
  have hstart : (i.start name source).Sound := (inv_of_mem Session.soundCompiling hs hi).1.congr rfl rfl rfl
  obtain ⟨verdict, reports, t, hrun, hnotes⟩ := exists_run_compileSource read i.options (File.source name source)
    i.scope [] hstart
  have hall : ∃ verdict, (i.program (Backend.reading read) name source).run logDiagnostic i.scope []
      (i.start name source) = .ok (verdict, [] ++ reports) t := by
    cases verdict with
    | error f => exact ⟨_, Program.run_bind_error _ hrun⟩
    | ok b => exact ⟨_, (Program.run_bind_ok _ hrun).trans rfl⟩
  obtain ⟨verdict, hall⟩ := hall
  have hreports : reports = i.reports (Backend.reading read) name source := Emission.found_of_run hall
  obtain ⟨imports, himports⟩ := hnotes d (hreports ▸ hd) hkind
  exact ⟨_, imports, himports⟩

end Compiler

namespace Session

open Standard Compiler

/-- **The search for an imported unit agrees with the registry** if there is nothing but published units, which are
named by lines: it finds one exactly if the registry finds a context. And whatever there is besides, no import is
noted by a compilation for which the registry finds a context when the backend starts. -/
theorem Arises.imports_agree (hs : s.Arises) :
    (s.NamedByLines → HasNoClassFiles s → s.resources.places = [] → ∀ (n : String) (scope : ScopeId)
      (found : List Diagnostic), (isUnit n).run logDiagnostic scope found s =
        .ok (.ok (s.registry.find? n).isSome, found) s) ∧
    ∀ (read : Reader) (name source : String), ∀ i ∈ invocations (Backend.reading read) name source s,
      i.before.NamedByLines → ∀ (uri : String) (line : Nat) (n : String),
        unresolvedDiagnostic uri line n ∈ i.reports (Backend.reading read) name source →
        (i.start name source).registry.find? n = none := by
  have hreachable : s.Reachable := by
    obtain ⟨fresh, operations, hfresh, -, rfl⟩ := hs
    exact (Reachable.fresh hfresh).performed operations
  constructor
  · intro hlines hfiles hplaces n scope found
    have hlabelled : ∀ c ∈ s.contexts, c.artifact.name = c.qualified := fun c hc => (hs.filed.labelled c hc).2
    rw [← hasUnit_eq hlabelled hreachable.keyed hreachable.slotted hlines hfiles hplaces n]
    exact Program.run_candidates ..
  · intro read name source i hi hlines uri line n hreported
    have hfiled : i.before.Filed := (inv_of_mem filingCompiling hs.filed hi).1
    have hkeyed : i.before.Keyed := (inv_of_mem keyingCompiling hreachable.keyed hi).1
    have hslotted : i.before.Slotted := (inv_of_mem slottingCompiling hreachable.slotted hi).1
    obtain ⟨uri', imports, hunresolved⟩ := exists_unresolved_of_reports hreachable.sound hi hreported rfl
    obtain ⟨p, -, hlead, heq⟩ := mem_unresolved.1 hunresolved
    obtain rfl := eq_of_unresolvedDiagnostic_eq heq
    by_contra hfound
    refine hasUnit_of_leads hlead (hasUnit_of_find? (s := i.start name source) ?_ ?_ ?_ ?_ ?_)
    · exact fun c hc => (hfiled.labelled c hc).2
    · exact hkeyed.same rfl rfl
    · exact hslotted
    · exact hlines
    · exact Option.isSome_iff_ne_none.2 hfound

/-- A session in which units are published in two packages, one of them below the other. -/
def nested : Session := holdingUnits [("p.A_ts1", "x = 1\n"), ("p.q.A_ts2_ts3", "x = 2\n")]

/-- A source that imports a generation to come, and a unit that is in neither package. -/
def nestedImports : String := "import p.A_ts7, p.q.B\n"

theorem nested_arises : nested.Arises := ⟨{}, _, isFresh_empty, rfl, rfl⟩

/-- The generation to come is found, and the other unit is noted. -/
theorem nested_imports_agree :
    (nested.Arises ∧ nested.NamedByLines ∧ HasNoClassFiles nested ∧ nested.resources.places = []) ∧
    (isUnit "p.A_ts7").run logDiagnostic 0 [] nested = .ok (.ok true, []) nested ∧
    (isUnit "p.q.B").run logDiagnostic 0 [] nested = .ok (.ok false, []) nested ∧
    ∃ i ∈ invocations (Backend.reading readScript) "p.C_ts1" nestedImports nested, i.before.NamedByLines ∧
      unresolvedDiagnostic "vfs:///p/C_ts1.py" 1 "p.q.B" ∈
        i.reports (Backend.reading readScript) "p.C_ts1" nestedImports ∧
      (i.start "p.C_ts1" nestedImports).registry.find? "p.q.B" = none := by
  have hlines : nested.NamedByLines := by decide +kernel
  have hfiles : HasNoClassFiles nested := by decide +kernel
  have hplaces : nested.resources.places = [] := by decide +kernel
  obtain ⟨hsearch, hnotes⟩ := nested_arises.imports_agree
  have hfound : (nested.registry.find? "p.A_ts7").isSome = true := by decide +kernel
  have hmissing : (nested.registry.find? "p.q.B").isSome = false := by decide +kernel
  have hinvoked : (invocation? (Backend.reading readScript) "p.C_ts1" nestedImports nested.policy.options nested).any
      (fun i => decide i.before.NamedByLines &&
        decide (unresolvedDiagnostic "vfs:///p/C_ts1.py" 1 "p.q.B" ∈
          i.reports (Backend.reading readScript) "p.C_ts1" nestedImports)) = true := by
    decide +kernel
  obtain ⟨i, hi, h⟩ := (Option.any_eq_true ..).1 hinvoked
  simp only [Bool.and_eq_true, decide_eq_true_eq] at h
  have hmem : i ∈ invocations (Backend.reading readScript) "p.C_ts1" nestedImports nested :=
    List.mem_append_left _ (Option.mem_toList.2 hi)
  refine ⟨⟨nested_arises, hlines, hfiles, hplaces⟩, ?_, ?_, i, hmem, h.1, h.2, hnotes _ _ _ i hmem h.1 _ _ _ h.2⟩
  · rw [hsearch hlines hfiles hplaces, hfound]
  · rw [hsearch hlines hfiles hplaces, hmissing]

end Session

end UnitFoundry
