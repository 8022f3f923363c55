import UnitFoundry.Proofs.Backend.Standard

/-!
# Imports that lead nowhere

Before an artifact is emitted, each name that its source imports is looked for: as a unit, as a package, as an
artifact and as a library. The search may be interrupted, by a name that is too long for the file system, say. If it
is not, the names that lead nowhere are noted, in order, and nothing comes of it.

* `leads` — whether a name leads to something in a session;
* `run_isResolvable` — **this is what the search finds**, and it changes nothing;
* `unresolved` — the notes on the names that lead nowhere;
* `run_checkImports`, `run_checkImports_error` — **they are what is reported**, unless a search is interrupted.
-/

namespace UnitFoundry

open Script Text

variable {s : Session} {scope : ScopeId} {found : List Diagnostic}

/-! ## Listings -/

namespace Program

/-- A listing is searched. -/
theorem run_candidates (location : Location) (package : String) (kinds : List FileKind) (recurse : Bool)
    (test : File → Bool) :
    (Program.request (.candidates location package kinds recurse) >>= fun listing : Listing =>
        Program.ofExcept (listing.any test)).run logDiagnostic scope found s =
      .ok ((Overlay.candidatesIn s location package kinds recurse).any test, found) s := by
  have hrequest : (Program.request (.candidates location package kinds recurse)).run logDiagnostic scope found s =
      .ok (.ok (Overlay.candidatesIn s location package kinds recurse), found ++ []) s := rfl
  rw [List.append_nil] at hrequest
  exact (run_bind_ok _ hrequest).trans (run_ofExcept _)

end Program

namespace Standard

variable {uri : String} {imports : List (Nat × String)}

/-! ## The search for a name -/

/-- Whether there is a unit with the canonical name of a given one. -/
def hasUnit (s : Session) (name : String) : Except Failure Bool :=
  (Overlay.candidatesIn s .classPath (UnitName.package name) FileKind.all false).any
    fun file => UnitName.canonical file.name = UnitName.canonical name

/-- Whether there is a file below a package. -/
def hasPackage (s : Session) (name : String) : Except Failure Bool :=
  (Overlay.candidatesIn s .classPath name FileKind.all true).any fun _ => true

/-- Whether there is an artifact under a name. -/
def hasArtifact (s : Session) (name : String) : Except Failure Bool :=
  match Emission.fileIn s .classPath (UnitName.package name) (UnitName.simple name ++ UnitName.artifactExtension) with
  | .ok _ => .ok true
  | .error (.error e) =>
    match e.kind with
    | .resourceNotFound _ => .ok false
    | _ => .error (.error e)
  | .error failure => .error failure

/-- Whether a name leads to a unit, a package, an artifact or a library, as far as this can be said. -/
def leads (s : Session) (name : String) : Except Failure Bool := do
  if ← hasUnit s name then pure true
  else if ← hasPackage s name then pure true
  else if ← hasArtifact s name then pure true
  else pure (isLibrary name)

/-- Records make no difference. -/
theorem leads_log (s : Session) (log : List Record) (name : String) : leads { s with log } name = leads s name := rfl

theorem run_isResource (name : String) (s : Session) (scope : ScopeId) (found : List Diagnostic) :
    (isResource name).run logDiagnostic scope found s = .ok (hasArtifact s name, found) s := by
  have hresolve : (Program.attempt (Program.request (.resolve .classPath (UnitName.package name)
      (UnitName.simple name ++ UnitName.artifactExtension)))).run logDiagnostic scope found s =
      .ok (.ok (Emission.fileIn s .classPath (UnitName.package name)
        (UnitName.simple name ++ UnitName.artifactExtension)), found) s := by
    have hrequest : Action.attempt ((Request.resolve .classPath (UnitName.package name)
        (UnitName.simple name ++ UnitName.artifactExtension)).perform logDiagnostic scope) s =
        .ok (Emission.fileIn s .classPath (UnitName.package name)
          (UnitName.simple name ++ UnitName.artifactExtension)) s := by
      show Action.attempt (Overlay.resolve .classPath (UnitName.package name)
        (UnitName.simple name ++ UnitName.artifactExtension) : Action File) s = _
      rw [Action.attempt, Emission.resolve_apply]
      exact Emission.attempt_ofExcept _ s
    refine (Program.run_ask hrequest).trans ?_
    have hreported : found ++ (Request.resolve .classPath (UnitName.package name)
        (UnitName.simple name ++ UnitName.artifactExtension)).reported = found := List.append_nil found
    rw [hreported]
    cases Emission.fileIn s .classPath (UnitName.package name)
      (UnitName.simple name ++ UnitName.artifactExtension) with
    | ok file => rfl
    | error f => rfl
  refine (Program.run_bind_ok _ hresolve).trans ?_
  unfold hasArtifact
  cases Emission.fileIn s .classPath (UnitName.package name) (UnitName.simple name ++ UnitName.artifactExtension) with
  | ok file => rfl
  | error f =>
    cases f with
    | error e =>
      cases he : e.kind with
      | resourceNotFound path =>
        simp only [he]
        rfl
      | _ =>
        simp only [he]
        rfl
    | _ => rfl

/-- **This is what the search finds**, and it changes nothing. -/
theorem run_isResolvable (name : String) (s : Session) (scope : ScopeId) (found : List Diagnostic) :
    (isResolvable name).run logDiagnostic scope found s = .ok (leads s name, found) s := by
  have hunit : (isUnit name).run logDiagnostic scope found s = .ok (hasUnit s name, found) s :=
    Program.run_candidates ..
  have hpackage : (isPackage name).run logDiagnostic scope found s = .ok (hasPackage s name, found) s :=
    Program.run_candidates ..
  have hresource := run_isResource name s scope found
  unfold leads
  cases hunits : hasUnit s name with
  | error f => exact Program.run_bind_error _ (hunits ▸ hunit)
  | ok unit =>
    refine (Program.run_bind_ok _ (hunits ▸ hunit)).trans ?_
    cases unit with
    | true => rfl
    | false =>
      cases hpackages : hasPackage s name with
      | error f => exact Program.run_bind_error _ (hpackages ▸ hpackage)
      | ok package =>
        refine (Program.run_bind_ok _ (hpackages ▸ hpackage)).trans ?_
        cases package with
        | true => rfl
        | false =>
          cases hresources : hasArtifact s name with
          | error f => exact Program.run_bind_error _ (hresources ▸ hresource)
          | ok artifact =>
            refine (Program.run_bind_ok _ (hresources ▸ hresource)).trans ?_
            cases artifact with
            | true => rfl
            | false => rfl

/-! ## The names of a source -/

/-- The notes on the names that lead nowhere. -/
def unresolved (s : Session) (uri : String) (imports : List (Nat × String)) : List Diagnostic :=
  (imports.filter fun p => (leads s p.2).toOption = some false).map fun p => unresolvedDiagnostic uri p.1 p.2

theorem mem_unresolved {d : Diagnostic} : d ∈ unresolved s uri imports ↔
    ∃ p ∈ imports, leads s p.2 = .ok false ∧ d = unresolvedDiagnostic uri p.1 p.2 := by
  have hlead (p : Nat × String) : (leads s p.2).toOption = some false ↔ leads s p.2 = .ok false := by
    cases leads s p.2 <;> simp [Except.toOption]
  simp only [unresolved, List.mem_map, List.mem_filter, decide_eq_true_eq, hlead, and_assoc]
  exact exists_congr fun p => and_congr_right fun _ => and_congr_right fun _ => eq_comm

theorem kind_unresolved {d : Diagnostic} (hd : d ∈ unresolved s uri imports) : d.kind = .note := by
  obtain ⟨p, -, -, rfl⟩ := mem_unresolved.1 hd
  rfl

/-- **The names that lead nowhere are noted**, and nothing comes of it. -/
theorem run_checkImports (h : ∀ p ∈ imports, ∃ b, leads s p.2 = .ok b) (uri : String) (scope : ScopeId)
    (found : List Diagnostic) : ∃ log, (checkImports uri imports).run logDiagnostic scope found s =
      .ok (.ok (), found ++ unresolved s uri imports) { s with log } := by
  induction imports generalizing s found with
  | nil =>
    have hnone : unresolved s uri [] = [] := rfl
    rw [hnone, List.append_nil]
    exact ⟨s.log, rfl⟩
  | cons p rest ih =>
    obtain ⟨line, name⟩ := p
    obtain ⟨b, hb⟩ := h (line, name) List.mem_cons_self
    replace hb : leads s name = .ok b := hb
    have hrest : ∀ p ∈ rest, ∃ b, leads s p.2 = .ok b := fun p hp => h p (List.mem_cons_of_mem _ hp)
    have hsearch := run_isResolvable name s scope found
    rw [hb] at hsearch
    cases b with
    | true =>
      obtain ⟨log, hlog⟩ := ih hrest found
      have hskip : unresolved s uri ((line, name) :: rest) = unresolved s uri rest :=
        congrArg (List.map _) (List.filter_cons_of_neg (by rw [hb]; decide))
      rw [hskip]
      exact ⟨log, (Program.run_bind_ok _ hsearch).trans hlog⟩
    | false =>
      have hnote : unresolved s uri ((line, name) :: rest) =
          unresolvedDiagnostic uri line name :: unresolved s uri rest :=
        congrArg (List.map _) (List.filter_cons_of_pos (by rw [hb]; decide))
      obtain ⟨log, hreport⟩ := Program.run_report (unresolvedDiagnostic uri line name) scope found s
      obtain ⟨log', hlog⟩ := ih (s := { s with log }) hrest (found ++ [unresolvedDiagnostic uri line name])
      rw [List.append_assoc] at hlog
      rw [hnote]
      exact ⟨log', (Program.run_bind_ok _ hsearch).trans <| (Program.run_bind_ok _ hreport).trans hlog⟩

/-- A search that is interrupted ends everything. Some of the names may have been noted before. -/
theorem run_checkImports_error (h : ∃ p ∈ imports, ∃ f, leads s p.2 = .error f) (uri : String) (scope : ScopeId)
    (found : List Diagnostic) : ∃ f more log, (checkImports uri imports).run logDiagnostic scope found s =
      .ok (.error f, found ++ more) { s with log } ∧ more ⊆ unresolved s uri imports := by
  induction imports generalizing s found with
  | nil =>
    obtain ⟨p, hp, -⟩ := h
    cases hp
  | cons first rest ih =>
    obtain ⟨line, name⟩ := first
    have hsearch := run_isResolvable name s scope found
    cases hlead : leads s name with
    | error f =>
      rw [hlead] at hsearch
      refine ⟨f, [], s.log, ?_, List.nil_subset _⟩
      rw [List.append_nil]
      exact Program.run_bind_error _ hsearch
    | ok b =>
      rw [hlead] at hsearch
      have hrest : ∃ p ∈ rest, ∃ f, leads s p.2 = .error f := by
        obtain ⟨p, hp, f, hf⟩ := h
        obtain rfl | hp := List.mem_cons.1 hp
        · cases hlead.symm.trans hf
        · exact ⟨p, hp, f, hf⟩
      have hcons : unresolved s uri rest ⊆ unresolved s uri ((line, name) :: rest) := fun d hd => by
        obtain ⟨p, hp, hnot⟩ := mem_unresolved.1 hd
        exact mem_unresolved.2 ⟨p, List.mem_cons_of_mem _ hp, hnot⟩
      cases b with
      | true =>
        obtain ⟨f, more, log, hlog, hmore⟩ := ih hrest found
        exact ⟨f, more, log, (Program.run_bind_ok _ hsearch).trans hlog, List.Subset.trans hmore hcons⟩
      | false =>
        obtain ⟨log, hreport⟩ := Program.run_report (unresolvedDiagnostic uri line name) scope found s
        obtain ⟨f, more, log', hlog, hmore⟩ :=
          ih (s := { s with log }) hrest (found ++ [unresolvedDiagnostic uri line name])
        rw [List.append_assoc] at hlog
        refine ⟨f, _, log', (Program.run_bind_ok _ hsearch).trans <| (Program.run_bind_ok _ hreport).trans hlog,
          List.cons_subset.2 ⟨?_, List.Subset.trans hmore hcons⟩⟩
        exact mem_unresolved.2 ⟨(line, name), List.mem_cons_self, hlead, rfl⟩

end Standard

end UnitFoundry
