import UnitFoundry.Proofs.Emission.Courses

/-!
# Runs of programs, part by part

A program put together from others runs as they do, one after the other. Some programs only look: they
ask for files and report what they find. Where two sessions hold the same files, such a program finds
the same in both, and all that it leaves behind are records in the log.

* `run_ask`, `run_bind` — a run of a program follows its parts;
* `SameFiles` — two sessions hold the same files;
* `Program.Looks` — a program that only looks, and fails with exceptions at worst;
* `Looks.run` — **it finds the same wherever the files are the same**, and changes none of them;
* `run_emit` — an emission adds one context and publishes it, wherever it runs.
-/

namespace UnitFoundry

open Script Text

variable {α β : Type} {s t : Session} {listener : Diagnostic → Action Unit} {scope : ScopeId}
  {found : List Diagnostic}

namespace Program

/-! ## Parts of a run -/

/-- A program that asks goes on with the answer. -/
theorem run_ask {request : Request} {next : Except Failure (Response request) → Program α}
    {answer : Except Failure (Response request)}
    (h : Action.attempt (request.perform listener scope) s = .ok answer t) :
    (Program.ask request next).run listener scope found s =
      (next answer).run listener scope (found ++ request.reported) t :=
  Action.bind_ok h

/-- What follows a program runs where the program has ended. -/
theorem run_bind_ok {p : Program α} {a : α} {all : List Diagnostic} (next : α → Program β)
    (h : p.run listener scope found s = .ok (.ok a, all) t) :
    (p >>= next).run listener scope found s = (next a).run listener scope all t := by
  induction p generalizing found s with
  | done x =>
    cases h
    rfl
  | fail failure => cases h
  | ask request continued ih =>
    obtain ⟨answer, u, hanswer, hrest⟩ := Action.bind_eq_ok.1 h
    exact (run_ask hanswer).trans (ih answer hrest)

/-- What has failed is not followed by anything. -/
theorem run_bind_error {p : Program α} {f : Failure} {all : List Diagnostic} (next : α → Program β)
    (h : p.run listener scope found s = .ok (.error f, all) t) :
    (p >>= next).run listener scope found s = .ok (.error f, all) t := by
  induction p generalizing found s with
  | done x => cases h
  | fail failure =>
    cases h
    rfl
  | ask request continued ih =>
    obtain ⟨answer, u, hanswer, hrest⟩ := Action.bind_eq_ok.1 h
    exact (run_ask hanswer).trans (ih answer hrest)

theorem run_ofExcept (e : Except Failure α) :
    (Program.ofExcept e).run listener scope found s = .ok (e, found) s := by
  cases e <;> rfl

/-- A run ends with a verdict. -/
theorem run_total (p : Program α) (listener : Diagnostic → Action Unit) (scope : ScopeId) (found : List Diagnostic)
    (s : Session) : ∃ verdict all t, p.run listener scope found s = .ok (verdict, all) t := by
  induction p generalizing found s with
  | done x => exact ⟨.ok x, found, s, rfl⟩
  | fail failure => exact ⟨.error failure, found, s, rfl⟩
  | ask request continued ih =>
    obtain ⟨answer, t, hanswer⟩ := Action.attempt_total (request.perform listener scope) s
    obtain ⟨verdict, all, u, hrest⟩ := ih answer (found ++ request.reported) t
    exact ⟨verdict, all, u, (run_ask hanswer).trans hrest⟩

/-- A success of two programs is one of the first, and then one of the second. -/
theorem run_bind_eq_ok {p : Program α} {next : α → Program β} {b : β} {all : List Diagnostic}
    (h : (p >>= next).run listener scope found s = .ok (.ok b, all) t) : ∃ a between u,
      p.run listener scope found s = .ok (.ok a, between) u ∧
      (next a).run listener scope between u = .ok (.ok b, all) t := by
  obtain ⟨verdict, between, u, hrun⟩ := run_total p listener scope found s
  cases verdict with
  | ok a => exact ⟨a, between, u, hrun, (run_bind_ok next hrun).symm.trans h⟩
  | error f => cases (run_bind_error next hrun).symm.trans h

/-- A record is left, and nothing else is different. -/
theorem run_log (severity : Severity) (channel : Channel) (text : String) (scope : ScopeId)
    (found : List Diagnostic) (s : Session) :
    ∃ log, (request (.log severity channel text)).run logDiagnostic scope found s =
      .ok (.ok (), found) { s with log } := by
  have hlogged : Action.attempt
      ((Request.log severity channel text).perform logDiagnostic scope) s = _ :=
    Action.attempt_ok (Action.logged_apply severity channel text s)
  refine ⟨record s.level s.log ⟨severity, channel, text⟩, (run_ask hlogged).trans ?_⟩
  show (done ()).run logDiagnostic scope (found ++ []) _ = _
  rw [List.append_nil]
  rfl

end Program

/-! ## Sessions with the same files -/

/-- Two sessions hold the same files: in memory, published and on the resource path. -/
structure SameFiles (s t : Session) : Prop where
  contexts : t.contexts = s.contexts
  registry : t.registry = s.registry
  overlay : t.overlay = s.overlay
  disk : t.disk = s.disk
  resources : t.resources = s.resources

theorem SameFiles.refl (s : Session) : SameFiles s s := ⟨rfl, rfl, rfl, rfl, rfl⟩

theorem SameFiles.logged {s t : Session} (h : SameFiles s t) (log : List Record) :
    SameFiles s { t with log } :=
  ⟨h.contexts, h.registry, h.overlay, h.disk, h.resources⟩

/-! ## Programs that only look -/

/-- A request that asks for files or leaves a record. -/
def Request.Looks : Request → Prop
  | .report _ | .candidates .. | .resolve .. | .log .. => True
  | _ => False

/-- The answers that a request for files can have: a listing ends with an exception at worst, and a file
that is not found is one of no location. -/
def Request.CanAnswer : (r : Request) → Except Failure (Response r) → Prop
  | .candidates .., answer => ∃ l : Listing, answer = .ok l ∧ ∀ f, l.failure = some f → ∃ r, f = .raised r
  | .resolve .., answer => ∀ f, answer = .error f →
    (∃ r, f = .raised r) ∨ ∃ path location, f = .error (.fileNotFound path location)
  | .report _, answer => answer = .ok ()
  | .log .., answer => answer = .ok ()
  | _, _ => True

theorem ResourcePath.listAll_raises (disk : Disk) (package : String) (kinds : List FileKind)
    (recurse : Bool) (places : List Path) {f : Failure}
    (h : (ResourcePath.listAll disk package kinds recurse places).failure = some f) :
    ∃ r, f = .raised r := by
  induction places with
  | nil => cases h
  | cons place places ih =>
    rw [ResourcePath.listAll] at h
    split at h
    · exact ih h
    · exact ⟨_, (Option.some.inj h).symm⟩

/-- A request for files is answered alike wherever the files are the same. -/
theorem Request.Looks.answer {r : Request} (h : r.Looks) (s : Session) :
    ∃ answer, r.CanAnswer answer ∧ ∀ scope t, SameFiles s t → ∃ log,
      Action.attempt (r.perform logDiagnostic scope) t = .ok answer { t with log } := by
  cases r with
  | report d =>
    refine ⟨.ok (), rfl, fun scope t _ => ?_⟩
    have hreport : logDiagnostic d t = .ok () _ := Action.modify_apply _ t
    cases hrecord : diagnosticRecord? t.verbose t.level d with
    | none =>
      rw [hrecord] at hreport
      exact ⟨t.log, Action.attempt_ok hreport⟩
    | some r =>
      rw [hrecord] at hreport
      exact ⟨record t.level t.log r, Action.attempt_ok hreport⟩
  | candidates location package kinds recurse =>
    refine ⟨.ok (Overlay.candidatesIn s location package kinds recurse), ⟨_, rfl, fun f hf => ?_⟩,
      fun scope t hst => ⟨t.log, ?_⟩⟩
    · exact ResourcePath.listAll_raises _ _ _ _ _ hf
    · have hsame : Overlay.candidatesIn t location package kinds recurse =
          Overlay.candidatesIn s location package kinds recurse := by
        unfold Overlay.candidatesIn Overlay.overlayFiles Overlay.activeArtifacts
        rw [hst.contexts, hst.registry, hst.overlay, hst.disk, hst.resources]
      rw [← hsame]
      rfl
  | resolve location package relativeName =>
    refine ⟨Emission.fileIn s location package relativeName, fun f hf => ?_, fun scope t hst =>
      ⟨t.log, ?_⟩⟩
    · unfold Emission.fileIn at hf
      split at hf
      · cases hf
      split at hf
      · cases hf
      · exact .inr ⟨_, _, (Except.error.inj hf).symm⟩
      · exact .inl ⟨_, (Except.error.inj hf).symm⟩
    · have hsame : Emission.fileIn t location package relativeName =
          Emission.fileIn s location package relativeName := by
        unfold Emission.fileIn
        rw [hst.overlay, hst.resources, hst.disk]
      rw [← hsame]
      show Action.attempt (Overlay.resolve location package relativeName) t = _
      rw [Action.attempt, Emission.resolve_apply]
      exact Emission.attempt_ofExcept _ t
  | log severity channel text =>
    exact ⟨.ok (), rfl, fun scope t _ => ⟨_, Action.attempt_ok (Action.logged_apply ..)⟩⟩
  | note => exact h.elim
  | openOutput => exact h.elim
  | write => exact h.elim
  | close => exact h.elim
  | configure => exact h.elim

/-- A report leaves a record at most. -/
theorem Program.run_report (d : Diagnostic) (scope : ScopeId) (found : List Diagnostic) (s : Session) :
    ∃ log, (Program.report d).run logDiagnostic scope found s = .ok (.ok (), found ++ [d]) { s with log } := by
  obtain ⟨answer, rfl, hreport⟩ := (show (Request.report d).Looks from trivial).answer s
  obtain ⟨log, hlog⟩ := hreport scope s (.refl s)
  exact ⟨log, Program.run_ask hlog⟩

/-- A program that only looks: it asks for files and leaves records, and fails with exceptions at worst. -/
inductive Program.Looks : Program α → Prop where
  | done (x : α) : Looks (.done x)
  | fail (r : Raised) : Looks (.fail (.raised r))
  | ask {request : Request} {next : Except Failure (Response request) → Program α}
      (h : request.Looks) (hnext : ∀ answer, request.CanAnswer answer → Looks (next answer)) :
      Looks (.ask request next)

namespace Program.Looks

variable {p : Program α}

theorem bind {next : α → Program β} (h : p.Looks) (hnext : ∀ a, (next a).Looks) :
    (p >>= next).Looks := by
  induction h with
  | done x => exact hnext x
  | fail r => exact .fail r
  | ask h _ ih => exact .ask h ih

theorem report (d : Diagnostic) : (Program.report d).Looks :=
  .ask trivial fun answer hanswer => by
    obtain rfl := hanswer
    exact .done ()

theorem log (severity : Severity) (channel : Channel) (text : String) :
    (Program.request (.log severity channel text)).Looks :=
  .ask trivial fun answer hanswer => by
    obtain rfl := hanswer
    exact .done ()

/-- A listing that is searched ends the program with an exception at worst. -/
theorem candidates (location : Location) (package : String) (kinds : List FileKind) (recurse : Bool)
    (test : File → Bool) :
    (Program.request (.candidates location package kinds recurse) >>= fun listing : Listing =>
      Program.ofExcept (listing.any test)).Looks := by
  refine .ask trivial fun answer hanswer => ?_
  obtain ⟨listing, rfl, hraises⟩ := hanswer
  show (Program.ofExcept (listing.any test)).Looks
  unfold Listing.any
  split
  · exact .done true
  · cases hfailure : listing.failure with
    | none => exact .done false
    | some f =>
      obtain ⟨r, rfl⟩ := hraises f hfailure
      exact .fail r

/-- **A program that only looks finds the same wherever the files are the same**, and leaves nothing
behind but records. -/
theorem run (h : p.Looks) (s : Session) : ∃ (verdict : Except Raised α) (more : List Diagnostic),
    ∀ scope found t, SameFiles s t → ∃ log, p.run logDiagnostic scope found t =
      .ok (verdict.mapError Failure.raised, found ++ more) { t with log } := by
  induction h with
  | done x => exact ⟨.ok x, [], fun scope found t _ => ⟨t.log, by rw [List.append_nil]; rfl⟩⟩
  | fail r => exact ⟨.error r, [], fun scope found t _ => ⟨t.log, by rw [List.append_nil]; rfl⟩⟩
  | @ask request next h _ ih =>
    obtain ⟨answer, hanswer, hperform⟩ := h.answer s
    obtain ⟨verdict, more, hrest⟩ := ih answer hanswer
    refine ⟨verdict, request.reported ++ more, fun scope found t hst => ?_⟩
    obtain ⟨log, hlog⟩ := hperform scope t hst
    obtain ⟨log', hrun⟩ := hrest scope (found ++ request.reported) _ (hst.logged log)
    refine ⟨log', ?_⟩
    rw [Program.run_ask hlog, hrun, List.append_assoc]

end Program.Looks

/-! ## Emissions -/

/-- What a program comes to wherever the files are the same: its verdict, and what it leaves in the
contexts and in the registry. -/
structure Upshot (α : Type) where
  verdict : Except Raised α
  contexts : List Context
  registry : Registry

/-- A session is what an ending leaves behind of another. -/
structure Upshot.Leaves (e : Upshot α) (s t : Session) : Prop where
  contexts : t.contexts = e.contexts
  registry : t.registry = e.registry
  scopes : t.scopes.length = s.scopes.length

/-- A program comes to an ending wherever the files are those of a session. -/
def Program.Ends (p : Program α) (s : Session) (e : Upshot α) : Prop :=
  ∀ scope found t, SameFiles s t → t.Sound → ∃ more u,
    p.run logDiagnostic scope found t = .ok (e.verdict.mapError Failure.raised, found ++ more) u ∧
      e.Leaves t u

namespace Program

variable {p : Program α} {e : Upshot α}

/-- What follows a program that only looks ends as it does where the files are as they were, unless the
program has failed. -/
theorem Looks.ends_bind (h : p.Looks) {next : α → Program β} {e : Upshot β}
    (hnext : ∀ a, (next a).Ends s e) : ∃ verdict : Except Raised α, (p >>= next).Ends s
      (match verdict with
      | .ok _ => e
      | .error r => ⟨.error r, s.contexts, s.registry⟩) := by
  obtain ⟨verdict, more, hrun⟩ := h.run s
  refine ⟨verdict, fun scope found t hst ht => ?_⟩
  obtain ⟨log, hlog⟩ := hrun scope found t hst
  cases verdict with
  | error r => exact ⟨more, _, run_bind_error next hlog, hst.contexts, hst.registry, rfl⟩
  | ok a =>
    obtain ⟨more', u, hrest, hu⟩ := hnext a scope (found ++ more) _ (hst.logged log)
      (ht.congr rfl rfl rfl)
    rw [List.append_assoc] at hrest
    exact ⟨_, u, (run_bind_ok next hlog).trans hrest, hu.contexts, hu.registry, hu.scopes⟩

/-- What leaves nothing but records after a program changes its verdict only. -/
theorem Ends.bind_value (h : p.Ends s e) (next : α → Program β) (value : α → β)
    (hnext : ∀ a scope found t, ∃ log,
      (next a).run logDiagnostic scope found t = .ok (.ok (value a), found) { t with log }) :
    (p >>= next).Ends s ⟨e.verdict.map value, e.contexts, e.registry⟩ := by
  obtain ⟨verdict, contexts, registry⟩ := e
  intro scope found t hst ht
  obtain ⟨more, u, hrun, hu⟩ := h scope found t hst ht
  cases verdict with
  | error r => exact ⟨more, u, run_bind_error next hrun, hu.contexts, hu.registry, hu.scopes⟩
  | ok a =>
    obtain ⟨log, hlog⟩ := hnext a scope (found ++ more) u
    exact ⟨more, _, (run_bind_ok next hrun).trans hlog, hu.contexts, hu.registry, hu.scopes⟩

end Program

/-- A context that an artifact with these bytes was emitted for. -/
def Emission.emittedContext (name : String) (bytes : Bytes) : Context :=
  { Context.fresh name with artifact := { File.artifact name with content := .frozen bytes } }

theorem Writer.write_raises (w : Writer) (data : Bytes) : Contract.Raises (w.write data) := by
  unfold Writer.write
  split
  · exact .error _ _
  split
  · exact .ok w
  unfold Writer.oversize?
  split
  · rename_i f hf
    split at hf
    · cases hf
    split at hf
    · cases hf
      exact .error _ _
    split at hf
    all_goals
      cases hf
      exact .error _ _
  · exact .ok _

namespace Emission

/-- The writing to a new writer leaves it open, even if it fails. It holds what was written. -/
theorem write_new (data : Bytes) : ∃ (written : Except Raised Unit) (v : Writer), v.closed = false ∧
    (written = .ok () → v.buffer = data) ∧ (data.length < Writer.memoryLimit → written = .ok ()) ∧
    ∀ (id : WriterId) (o : OpenWriter) (scope : ScopeId) (t : Session), t.writers[id]? = some o →
      o.writer = {} → ∃ u, Action.attempt ((Request.write id data).perform logDiagnostic scope) t =
          .ok (written.mapError Failure.raised) u ∧
        u.contexts = t.contexts ∧ u.registry = t.registry ∧ u.scopes = t.scopes ∧
        u.writers[id]? = some { o with writer := v } := by
  cases hw : ({} : Writer).write data with
  | ok v =>
    obtain ⟨-, hopen, hbuffer, -⟩ := Writer.write_at_end hw fun _ => rfl
    refine ⟨.ok (), v, hopen, fun _ => hbuffer, fun _ => rfl, fun id o scope t ho hnew => ?_⟩
    have hwrite := write_ok ho (hnew.symm ▸ hw)
    refine ⟨_, Action.attempt_ok (Action.bind_ok hwrite), rfl, rfl, rfl, ?_⟩
    exact (List.getElem?_modify_eq ..).trans (by rw [ho]; rfl)
  | error f =>
    obtain ⟨r, rfl⟩ := Writer.write_raises {} data f hw
    have hlarge : ¬ data.length < Writer.memoryLimit := by
      intro hfits
      have hopen : ({} : Writer).closed = false := rfl
      obtain ⟨v, hv⟩ := Writer.write_fits hopen ((Nat.zero_add data.length).symm ▸ hfits)
      cases hv.symm.trans hw
    refine ⟨.error r, {}, rfl, nofun, fun h => absurd h hlarge, fun id o scope t ho hnew => ?_⟩
    have hwrite := write_error ho (hnew.symm ▸ hw)
    refine ⟨t, Action.attempt_error (Action.bind_error hwrite), rfl, rfl, rfl, ?_⟩
    rw [ho, ← hnew]

/-- **An emission adds one context and publishes it**, even if its bytes cannot be written. The scope
remembers the context under its name. -/
theorem run_emit (name : String) (data : Bytes) (sibling : Option File) :
    ∃ (written : Except Raised Unit) (bytes : Bytes), (written = .ok () → bytes = data) ∧
      (data.length < Writer.memoryLimit → written = .ok ()) ∧ ∀ scope found t, t.Sound → ∃ u,
      (Program.emit name data sibling).run logDiagnostic scope found t =
        .ok (written.mapError Failure.raised, found) u ∧
      u.contexts = t.contexts ++ [emittedContext name bytes] ∧
      u.registry = t.registry.replace (UnitName.canonical name) t.contexts.length ∧
      u.scopes = remembered (some scope) name t.contexts.length t.scopes := by
  obtain ⟨written, v, hopen, hbuffer, hfits, hwrite⟩ := write_new data
  refine ⟨written, v.buffer, hbuffer, hfits, fun scope found t ht => ?_⟩
  obtain ⟨log, hopened⟩ := openOutput_apply (some scope) .classOutput name sibling t
  obtain ⟨u, hwritten, hcontexts, hregistry, hscopes, hwriter⟩ := hwrite t.writers.length
    { context := t.contexts.length, scope := some scope } scope
    { t with
      contexts := t.contexts ++ [opened name]
      writers := t.writers ++ [{ context := t.contexts.length, scope := some scope }]
      log } List.getElem?_concat_length rfl
  have hcontext : u.contexts[t.contexts.length]? = some (opened name) := by
    rw [hcontexts]
    exact List.getElem?_concat_length
  have hlinked : ∀ old, u.registry.lookup? (opened name).canonical = some old →
      old < u.contexts.length := by
    intro old hold
    rw [hregistry] at hold
    rw [hcontexts, List.length_append]
    exact Nat.lt_add_right _ (ht.linked _ old hold)
  obtain ⟨log', hclose⟩ := close_apply hwriter hopen hcontext hlinked
  have hrequested : Action.attempt
      ((Request.openOutput .classOutput name .artifact sibling).perform logDiagnostic scope) t = _ :=
    Action.attempt_ok hopened
  have hclosed : Action.attempt
      ((Request.close t.writers.length).perform logDiagnostic scope) u = _ := Action.attempt_ok hclose
  have hfrozen : u.contexts.modify t.contexts.length
      (fun c => { c with artifact := c.artifact.freeze v.buffer }) =
      t.contexts ++ [emittedContext name v.buffer] := by
    rw [hcontexts, modify_concat]
    rfl
  have hactive : u.registry.replace (UnitName.canonical name) t.contexts.length =
      t.registry.replace (UnitName.canonical name) t.contexts.length := by
    rw [hregistry]
  have hremembered : remembered (some scope) name t.contexts.length u.scopes =
      remembered (some scope) name t.contexts.length t.scopes := by
    rw [hscopes]
  refine ⟨{ sealed t.writers.length { writer := v, context := t.contexts.length, scope } u with
    registry := u.registry.replace (UnitName.canonical name) t.contexts.length
    scopes := remembered (some scope) name t.contexts.length u.scopes
    log := log' }, ?_, hfrozen, hactive, hremembered⟩
  cases written with
  | ok x =>
    refine (Program.run_ask hrequested).trans <| (Program.run_ask hwritten).trans <|
      (Program.run_ask hclosed).trans ?_
    simp only [Request.reported, List.append_nil]
    rfl
  | error r =>
    refine (Program.run_ask hrequested).trans <| (Program.run_ask hwritten).trans <|
      (Program.run_ask hclosed).trans ?_
    simp only [Request.reported, List.append_nil]
    rfl

/-- What an emission comes to wherever the files are the same. -/
theorem ends_emit (name : String) (data : Bytes) (sibling : Option File) (s : Session) :
    ∃ (verdict : Except Raised Unit) (bytes : Bytes), (Program.emit name data sibling).Ends s
      ⟨verdict, s.contexts ++ [emittedContext name bytes],
        s.registry.replace (UnitName.canonical name) s.contexts.length⟩ := by
  obtain ⟨written, bytes, -, -, hrun⟩ := run_emit name data sibling
  refine ⟨written, bytes, fun scope found t hst ht => ?_⟩
  obtain ⟨u, hemit, hcontexts, hregistry, hscopes⟩ := hrun scope found t ht
  refine ⟨[], u, ?_, ?_, ?_, ?_⟩
  · rw [List.append_nil]
    exact hemit
  · rw [hcontexts, hst.contexts]
  · rw [hregistry, hst.registry, hst.contexts]
  · rw [hscopes, length_remembered]

end Emission

end UnitFoundry
