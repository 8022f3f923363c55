import UnitFoundry.Proofs.Backend.Standard
import UnitFoundry.Proofs.Compiler.Competition
import UnitFoundry.Proofs.Policy

/-!
# Lint recovery

With lint recovery a source is compiled under the strict options first. If it is rejected and a lint
warning was found, it is compiled once more, under the lint options. This comes to the same as one
compilation under the lint options: what the strict options accept, the lint options accept, and what
the lint options accept, the strict options reject only for lint warnings. A backend that raises is the
exception. Then nobody gives a verdict, and the exception goes on to the caller.

* `accepts_lenient`, `recoverable_of_rejected` — the two option sets compared on what a reader finds;
* `Recovers` — a compilation does what one invocation under the lint options would do;
* `recovers_iff` — **with lint recovery this is so exactly if that invocation gives a verdict**.
-/

namespace UnitFoundry

open Script Text

namespace Compiler

open Standard

variable {read : Reader} {name source uri : String} {s t u : Session} {c : Compilation}
  {options : Options} {e : Upshot Bool}

/-! ## The option sets compared -/

/-- What the strict options accept, the lint options accept. -/
theorem accepts_lenient (h : s.policy.IsPaired) (haccepts : Accepts s.policy.options uri c) :
    Accepts s.policy.lintOptions uri c := by
  obtain ⟨hresult, hlint⟩ := accepts_iff.1 haccepts
  refine accepts_iff.2 ⟨hresult, fun herrors w hw => ?_⟩
  have hstrict := hlint (h.warningsAsErrors ▸ herrors) w hw
  rw [h.strict] at hstrict
  cases hstrict

/-- What the lint options accept, the strict options reject only with a lint warning. -/
theorem recoverable_of_rejected (h : s.policy.IsPaired)
    (haccepts : Accepts s.policy.lintOptions uri c) (hnot : ¬ Accepts s.policy.options uri c) :
    (compilationDiagnostics s.policy.options uri c).any (Diagnostic.hasCategory lintRecoverable) := by
  obtain ⟨hresult, hlint⟩ := accepts_iff.1 haccepts
  obtain ⟨herrors, w, hw⟩ : s.policy.options.warningsAsErrors ∧ ∃ w, w ∈ c.warnings := by
    by_contra hnone
    refine hnot (accepts_iff.2 ⟨hresult, fun herrors w hw => ?_⟩)
    exact absurd ⟨herrors, w, hw⟩ hnone
  have hcategory := hlint (h.warningsAsErrors.trans herrors) w hw
  rw [h.lenient] at hcategory
  refine List.any_eq_true.2 ⟨_, mem_compilationDiagnostics hw, ?_⟩
  rw [warningDiagnostic, Diagnostic.hasCategory, List.mem_singleton.1 hcategory]
  exact beq_self_eq_true _

/-! ## Invocations wherever the files are the same -/

/-- A session in which the source of a unit was put into memory. -/
def prepared (name source : String) (s : Session) : Session :=
  { s with
    overlay := setEntry
      (UnitName.overlayUri Location.sourcePath.label (UnitName.package name)
        (UnitName.simple name ++ UnitName.sourceExtension))
      (File.source name source) s.overlay }

/-- What an invocation of the standard backend comes to, which runs with the source in memory. -/
theorem invoke_of_ends (hends : (compileAll read options [File.source name source]).Ends
      (prepared name source s) e) (ht : t.Sound) (hst : SameFiles (prepared name source s)
      (prepared name source t)) : ∃ u, u.contexts = e.contexts ∧ u.registry = e.registry ∧
      u.scopes.length = t.scopes.length + 1 ∧
      match e.verdict with
      | .ok succeeded => ∃ o, invoke (.reading read) name source options t = .ok o u ∧
          o.succeeded = succeeded
      | .error r => invoke (.reading read) name source options t = .error (.raised r) u := by
  have hstart : SameFiles (prepared name source s) (starting name source options t) :=
    ⟨hst.contexts, hst.registry, hst.overlay, hst.disk, hst.resources⟩
  obtain ⟨more, u, hrun, hu⟩ := hends t.scopes.length [] _ hstart (ht.congr rfl rfl rfl)
  rw [(invoke_apply (.reading read) name source options t).trans (Action.bind_ok hrun)]
  refine ⟨u, hu.contexts, hu.registry, hu.scopes.trans (List.length_append ..), ?_⟩
  cases e.verdict with
  | ok succeeded => exact ⟨_, rfl, rfl⟩
  | error r => rfl

/-- What an invocation of the standard backend comes to if the source is not accepted. -/
theorem invoke_of_rejected (name : String) (hread : read options.target options.optimize source = .ok c)
    (hnot : ¬ Accepts options (File.source name source).uri c) (t : Session) : ∃ o u,
      invoke (.reading read) name source options t = .ok o u ∧ o.succeeded = false ∧
        o.found = compilationDiagnostics options (File.source name source).uri c ∧
        SameFiles (prepared name source t) u ∧ u.scopes.length = t.scopes.length + 1 ∧
        u.policy = t.policy := by
  obtain ⟨log, hrun⟩ := run_of_rejected name hread hnot t.scopes.length []
    (starting name source options t)
  rw [(invoke_apply (.reading read) name source options t).trans (Action.bind_ok hrun)]
  exact ⟨_, _, rfl, rfl, rfl, ⟨rfl, rfl, rfl, rfl, rfl⟩, List.length_append .., rfl⟩

/-! ## Attempts -/

/-- An upshot is an exception, or a success that leaves a context published under the name. -/
def IsDecisive (name : String) (e : Upshot Bool) : Prop :=
  (∃ r, e.verdict = .error r) ∨ e.verdict = .ok true ∧ ∃ id c,
    e.registry.lookup? (UnitName.canonical name) = some id ∧ e.contexts[id]? = some c ∧
      c.qualified = name

/-- A result is an upshot with a load after it: names, artifacts and the registry are as the upshot says,
and its exception is passed on. It is no rejection. -/
structure Carries (e : Upshot Bool) (result : EStateM.Result Failure Session ModuleId) : Prop where
  archive : (leftBy result).archive = e.contexts.map fun c => (c.qualified, c.artifact)
  registry : (leftBy result).registry = e.registry
  raised : ∀ r, e.verdict = .error r → ∃ u, result = .error (.raised r) u
  kept : ∀ f u, result = .error (.error f) u → isRejection f = false

/-- Where nothing is active under the name, an attempt is an invocation and its settling. -/
theorem compileOnce_of_inactive (backend : Backend) (source : String) (options : Options)
    (ht : t.Sound) (hinactive : ∀ id, ¬ Active t name id) :
    compileOnce backend name source options t =
      (invoke backend name source options >>= settle name source) t :=
  Action.bind_ok (cached_of_not_active ht hinactive)

/-- An attempt carries the upshot of its invocation. -/
theorem carries_compileOnce (hends : (compileAll read options [File.source name source]).Ends
      (prepared name source s) e) (he : IsDecisive name e) (ht : t.Sound)
    (hst : SameFiles (prepared name source s) (prepared name source t))
    (hinactive : ∀ id, ¬ Active t name id) :
    Carries e (compileOnce (.reading read) name source options t) ∧
      (leftBy (compileOnce (.reading read) name source options t)).scopes.length =
        t.scopes.length + 1 := by
  obtain ⟨u, hcontexts, hregistry, hscopes, hinvoke⟩ := invoke_of_ends hends ht hst
  rw [compileOnce_of_inactive _ _ _ ht hinactive]
  have hkeeps := Session.soundCompiling.keeps_invoke (.reading read) name source options
  obtain ⟨r, hr⟩ | ⟨hsucceeded, active, c, hactive, -⟩ := he
  · rw [hr] at hinvoke
    rw [Action.bind_error hinvoke]
    refine ⟨⟨?_, hregistry, fun r' hr' => ?_, fun f v hf => by cases hf⟩, hscopes⟩
    · exact congrArg _ hcontexts
    · obtain rfl := Except.error.inj (hr.symm.trans hr')
      exact ⟨u, rfl⟩
  · rw [hsucceeded] at hinvoke
    obtain ⟨o, hinvoke, ho⟩ := hinvoke
    have hu : u.Sound := (hkeeps.ok ht hinvoke).1
    obtain ⟨log, hload⟩ := loadPublished_of_active hu o.published (hregistry ▸ hactive)
    rw [Action.bind_ok hinvoke, settle, if_pos ho, hload]
    refine ⟨⟨?_, ?_, fun r hr => (by cases hsucceeded.symm.trans hr), fun f v hf => ?_⟩, ?_⟩
    · rw [Loader.untouched_archive.load]
      exact congrArg _ hcontexts
    · rw [Loader.untouched_registry.load]
      exact hregistry
    · exact isRejection_of_isUnusable (Loader.load_fails hf)
    · rw [Loader.untouched_scopes.load]
      exact hscopes

/-- An attempt whose source is not accepted ends with a rejection, and leaves the files as they were. -/
theorem compileOnce_of_rejected (hread : read options.target options.optimize source = .ok c)
    (hnot : ¬ Accepts options (File.source name source).uri c) (ht : t.Sound)
    (hinactive : ∀ id, ¬ Active t name id) : ∃ u,
      compileOnce (.reading read) name source options t = .error (.error (.rejected name
        (compilationDiagnostics options (File.source name source).uri c))) u ∧
      SameFiles (prepared name source t) u ∧ u.scopes.length = t.scopes.length + 1 := by
  obtain ⟨o, u, hinvoke, ho, hfound, hsame, hscopes, -⟩ := invoke_of_rejected name hread hnot t
  rw [compileOnce_of_inactive _ _ _ ht hinactive, Action.bind_ok hinvoke]
  refine ⟨{ u with log := record u.level u.log ⟨.debug, .compiler,
    "Failed to compile " ++ name ++ ", source:\n" ++ numberedLines source⟩ }, ?_, hsame.logged _, hscopes⟩
  rw [← hfound, settle, if_neg (Bool.eq_false_iff.1 ho)]
  rfl

/-! ## Compilations -/

/-- What becomes of a source that was accepted is decisive. -/
theorem exists_decisive (options : Options) (name source : String) (script : Block) (s : Session) :
    ∃ e, (emitArtifact options (File.source name source) source script).Ends
      (prepared name source s) e ∧ IsDecisive name e := by
  obtain ⟨e, hends, hraised | ⟨hsucceeded, bytes, hcontexts, hregistry⟩⟩ :=
    exists_ends_emitArtifact options (File.source name source) source script (prepared name source s)
  · exact ⟨e, hends, .inl hraised⟩
  · refine ⟨e, hends, .inr ⟨hsucceeded, s.contexts.length, Emission.emittedContext name bytes, ?_, ?_,
      rfl⟩⟩
    · rw [hregistry, Registry.lookup?_replace]
      exact if_pos rfl
    · rw [hcontexts]
      exact List.getElem?_concat_length

/-- What carries an upshot is not followed by a second attempt. -/
theorem compile_of_carries {backend : Backend}
    (h : Carries e (compileOnce backend name source s.policy.options s)) :
    compile backend name source s = compileOnce backend name source s.policy.options s := by
  refine compile_of_secondStart?_none ?_
  cases hstart : secondStart? backend name source s with
  | none => rfl
  | some t =>
    obtain ⟨f, u, herror, hretried, -⟩ := secondStart?_eq_some hstart
    have hkept := h.kept f u herror
    simp [isRetried, hkept] at hretried

/-- Putting a source into memory once more changes nothing. -/
theorem sameFiles_prepared (h : SameFiles (prepared name source s) t) :
    SameFiles (prepared name source s) (prepared name source t) := by
  refine ⟨h.contexts, h.registry, ?_, h.disk, h.resources⟩
  show setEntry _ _ t.overlay = _
  rw [h.overlay]
  exact setEntry_setEntry ..

/-- What an attempt under the strict options carries, the compilation carries. -/
theorem carries_of_strict (hs : s.Sound) (hinactive : ∀ id, ¬ Active s name id)
    (he : IsDecisive name e) (hends : (compileAll read s.policy.options [File.source name source]).Ends
      (prepared name source s) e) :
    Carries e (compile (.reading read) name source s) ∧
      (leftBy (compile (.reading read) name source s)).scopes.length ≤ s.scopes.length + 2 := by
  obtain ⟨hcarries, hscopes⟩ := carries_compileOnce hends he hs (.refl _) hinactive
  rw [compile_of_carries hcarries, hscopes]
  exact ⟨hcarries, Nat.le_succ _⟩

/-- What becomes of a compilation whose source the strict options reject: if a lint warning was found,
there is a second attempt where the files are as they were, else the rejection is the end of it. -/
theorem compile_of_rejected (hs : s.Sound) (hrecovery : s.policy.lintRecovery = true)
    (hinactive : ∀ id, ¬ Active s name id)
    (hread : read s.policy.options.target s.policy.options.optimize source = .ok c)
    (hnot : ¬ Accepts s.policy.options (File.source name source).uri c) : ∃ t, t.Sound ∧
      SameFiles (prepared name source s) t ∧ t.scopes.length = s.scopes.length + 1 ∧
      compile (.reading read) name source s =
        if (compilationDiagnostics s.policy.options (File.source name source).uri c).any
            (Diagnostic.hasCategory lintRecoverable) then
          compileOnce (.reading read) name source s.policy.lintOptions t
        else .error (.error (.rejected name
          (compilationDiagnostics s.policy.options (File.source name source).uri c))) t := by
  obtain ⟨u, honce, hsame, hscopes⟩ := compileOnce_of_rejected hread hnot hs hinactive
  have hkeeps := Session.soundCompiling.keeps_compileOnce (.reading read) name source s.policy.options
  have hu : u.Sound := (hkeeps.error hs honce).1
  have hretried : isRetried s.policy (.rejected name
      (compilationDiagnostics s.policy.options (File.source name source).uri c)) =
      (compilationDiagnostics s.policy.options (File.source name source).uri c).any
        (Diagnostic.hasCategory lintRecoverable) := by
    rw [isRetried, hrecovery]
    rfl
  split
  · rename_i hlint
    have hstart : secondStart? (.reading read) name source s =
        some (noted name s.policy.lintOptions u) := by
      rw [secondStart?, honce]
      exact if_pos (hretried.trans hlint)
    exact ⟨noted name s.policy.lintOptions u, hu.congr rfl rfl rfl, hsame.logged _, hscopes,
      compile_of_secondStart?_some hstart⟩
  · rename_i hlint
    have hstart : secondStart? (.reading read) name source s = none := by
      rw [secondStart?, honce]
      exact if_neg (hretried ▸ hlint)
    exact ⟨u, hu, hsame, hscopes, (compile_of_secondStart?_none hstart).trans honce⟩

/-- **The two ways in which a compilation can go** with lint recovery: it carries what an invocation under
the lint options comes to, or that invocation rejects the source, and so does the compilation. -/
theorem compile_cases (hs : s.Sound) (hp : s.policy.IsPaired) (hrecovery : s.policy.lintRecovery = true)
    (hinactive : ∀ id, ¬ Active s name id) :
    (∃ e, IsDecisive name e ∧
        (compileAll read s.policy.lintOptions [File.source name source]).Ends
          (prepared name source s) e ∧
        Carries e (compile (.reading read) name source s) ∧
        (leftBy (compile (.reading read) name source s)).scopes.length ≤ s.scopes.length + 2) ∨
      (∃ o u, invoke (.reading read) name source s.policy.lintOptions s = .ok o u ∧
        o.succeeded = false) ∧
      ∃ f t, compile (.reading read) name source s = .error (.error f) t ∧ isRejection f ∧
        t.registry = s.registry ∧ t.contexts = s.contexts ∧ t.scopes.length ≤ s.scopes.length + 2 := by
  have hread' : read s.policy.lintOptions.target s.policy.lintOptions.optimize source =
      read s.policy.options.target s.policy.options.optimize source := by
    rw [hp.target, hp.optimize]
  cases hread : read s.policy.options.target s.policy.options.optimize source with
  | error r =>
    have he : IsDecisive name ⟨.error r, s.contexts, s.registry⟩ := .inl ⟨r, rfl⟩
    have hends := ends_of_raised name hread (prepared name source s)
    exact .inl ⟨_, he, ends_of_raised name (hread'.trans hread) _, carries_of_strict hs hinactive he hends⟩
  | ok c =>
    have hread' := hread'.trans hread
    have hlenient (haccepts : Accepts s.policy.lintOptions (File.source name source).uri c) :
        ∃ e, IsDecisive name e ∧ (compileAll read s.policy.lintOptions [File.source name source]).Ends
          (prepared name source s) e ∧ (Accepts s.policy.options (File.source name source).uri c →
            (compileAll read s.policy.options [File.source name source]).Ends
              (prepared name source s) e) := by
      obtain ⟨script, hscript⟩ := haccepts.1
      obtain ⟨e, hends, he⟩ := exists_decisive s.policy.lintOptions name source script s
      refine ⟨e, he, ends_of_accepted hread' haccepts hscript hends, fun hstrict => ?_⟩
      rw [emitArtifact_congr hp.optimize] at hends
      exact ends_of_accepted hread hstrict hscript hends
    by_cases hstrict : Accepts s.policy.options (File.source name source).uri c
    · obtain ⟨e, he, hends, hends'⟩ := hlenient (accepts_lenient hp hstrict)
      exact .inl ⟨e, he, hends, carries_of_strict hs hinactive he (hends' hstrict)⟩
    · obtain ⟨t, ht, hsame, hscopes, hcompile⟩ :=
        compile_of_rejected hs hrecovery hinactive hread hstrict
      have hinactive' : ∀ id, ¬ Active t name id := by
        intro id
        rw [Active, hsame.registry, hsame.contexts]
        exact hinactive id
      by_cases haccepts : Accepts s.policy.lintOptions (File.source name source).uri c
      · obtain ⟨e, he, hends, -⟩ := hlenient haccepts
        rw [if_pos (recoverable_of_rejected hp haccepts hstrict)] at hcompile
        obtain ⟨hcarries, hscopes'⟩ :=
          carries_compileOnce hends he ht (sameFiles_prepared hsame) hinactive'
        rw [← hcompile, hscopes] at hscopes'
        rw [← hcompile] at hcarries
        exact .inl ⟨e, he, hends, hcarries, Nat.le_of_eq hscopes'⟩
      · obtain ⟨o, u, hinvoke, ho, -⟩ := invoke_of_rejected name hread' haccepts s
        refine .inr ⟨⟨o, u, hinvoke, ho⟩, ?_⟩
        split at hcompile
        · obtain ⟨v, hrejected, hsame', hscopes'⟩ :=
            compileOnce_of_rejected hread' haccepts ht hinactive'
          refine ⟨_, v, hcompile.trans hrejected, rfl, hsame'.registry.trans hsame.registry,
            hsame'.contexts.trans hsame.contexts, Nat.le_of_eq ?_⟩
          rw [hscopes', hscopes]
        · refine ⟨_, t, hcompile, rfl, hsame.registry, hsame.contexts, ?_⟩
          rw [hscopes]
          exact Nat.le_succ _

/-- A compilation does what one invocation under the lint options would do: the unit is published exactly
if that would report success, with the same artifacts, and else the compilation ends with a rejection and
nothing is published. The backend is invoked at most twice. -/
structure Recovers (read : Reader) (name source : String) (s : Session) : Prop where
  published : (∃ id, Active (leftBy (compile (.reading read) name source s)) name id) ↔
    ∃ o u, invoke (.reading read) name source s.policy.lintOptions s = .ok o u ∧ o.succeeded = true
  same : ∀ o u, invoke (.reading read) name source s.policy.lintOptions s = .ok o u →
    o.succeeded = true →
      (leftBy (compile (.reading read) name source s)).registry = u.registry ∧
      (leftBy (compile (.reading read) name source s)).archive = u.archive
  rejected : (¬ ∃ o u, invoke (.reading read) name source s.policy.lintOptions s = .ok o u ∧
      o.succeeded = true) → ∃ f t, compile (.reading read) name source s = .error (.error f) t ∧
        isRejection f ∧ t.registry = s.registry ∧ t.contexts = s.contexts
  bounded : (invocations (.reading read) name source s).length ≤ 2 ∧
    (leftBy (compile (.reading read) name source s)).scopes.length ≤ s.scopes.length + 2

theorem length_invocations_le (backend : Backend) (name source : String) (s : Session) :
    (invocations backend name source s).length ≤ 2 := by
  have htoList (i? : Option Invocation) : i?.toList.length ≤ 1 := by
    cases i? with
    | none => exact Nat.zero_le 1
    | some i => exact Nat.le_refl 1
  rw [invocations, List.length_append]
  exact Nat.add_le_add (htoList _) (htoList _)

/-- What is active can be read off the registry and the archive. -/
theorem active_of_archive {id : ContextId} {file : File}
    (hid : s.registry.lookup? (UnitName.canonical name) = some id)
    (harchive : s.archive[id]? = some (name, file)) : Active s name id := by
  rw [Session.archive, List.getElem?_map] at harchive
  obtain ⟨c, hc, heq⟩ := Option.map_eq_some_iff.1 harchive
  exact ⟨hid, c, hc, congrArg Prod.fst heq⟩

/-- What a success of the invocation is worth to the compilation that carries it. -/
theorem recovers_of_published {o : Outcome} (he : IsDecisive name e) (hsucceeded : e.verdict = .ok true)
    (hcarries : Carries e (compile (.reading read) name source s))
    (hscopes : (leftBy (compile (.reading read) name source s)).scopes.length ≤ s.scopes.length + 2)
    (hinvoke : invoke (.reading read) name source s.policy.lintOptions s = .ok o u)
    (ho : o.succeeded = true) (hcontexts : u.contexts = e.contexts) (hregistry : u.registry = e.registry) :
    Recovers read name source s where
  published := by
    refine ⟨fun _ => ⟨o, u, hinvoke, ho⟩, fun _ => ?_⟩
    obtain ⟨r, hr⟩ | ⟨-, id, c, hactive, hc, hname⟩ := he
    · cases hsucceeded.symm.trans hr
    · have harchive : (leftBy (compile (.reading read) name source s)).archive[id]? =
          some (name, c.artifact) := by
        rw [hcarries.archive, List.getElem?_map, hc, ← hname]
        rfl
      exact ⟨id, active_of_archive (hcarries.registry ▸ hactive) harchive⟩
  same o' v hv _ := by
    cases hinvoke.symm.trans hv
    refine ⟨hcarries.registry.trans hregistry.symm, ?_⟩
    rw [hcarries.archive, ← hcontexts]
    rfl
  rejected hnot := absurd ⟨o, u, hinvoke, ho⟩ hnot
  bounded := ⟨length_invocations_le .., hscopes⟩

/-- What a rejection by the invocation is worth to the compilation, which is rejected too. -/
theorem recovers_of_rejected {o : Outcome} {f : FoundryError} (hinactive : ∀ id, ¬ Active s name id)
    (hinvoke : invoke (.reading read) name source s.policy.lintOptions s = .ok o u)
    (ho : o.succeeded = false) (hcompile : compile (.reading read) name source s = .error (.error f) t)
    (hrejection : isRejection f) (hregistry : t.registry = s.registry)
    (hcontexts : t.contexts = s.contexts) (hscopes : t.scopes.length ≤ s.scopes.length + 2) :
    Recovers read name source s := by
  have hnot : ¬ ∃ o u, invoke (.reading read) name source s.policy.lintOptions s = .ok o u ∧
      o.succeeded = true := by
    rintro ⟨o', v, hv, ho'⟩
    cases hinvoke.symm.trans hv
    cases ho.symm.trans ho'
  constructor
  case published =>
    refine ⟨fun ⟨id, hid⟩ => absurd ?_ (hinactive id), fun h => absurd h hnot⟩
    rw [hcompile] at hid
    exact ⟨hregistry ▸ hid.1, hcontexts ▸ hid.2⟩
  case same => exact fun o' v hv ho' => absurd ⟨o', v, hv, ho'⟩ hnot
  case rejected => exact fun _ => ⟨f, t, hcompile, hrejection, hregistry, hcontexts⟩
  case bounded =>
    rw [hcompile]
    exact ⟨length_invocations_le .., hscopes⟩

/-- **With lint recovery, a compilation does what one invocation under the lint options would do exactly
if that invocation gives a verdict.** If it raises an exception instead, the compilation ends with this
exception, and leaves the same artifacts behind. The policy may be any that changes lead to, and the
reader any at all. -/
theorem recovers_iff (hs : s.Reachable) (hp : s.policy.Configured)
    (hrecovery : s.policy.lintRecovery = true) (hinactive : ∀ id, ¬ Active s name id) :
    (Recovers read name source s ↔
      ∃ o u, invoke (.reading read) name source s.policy.lintOptions s = .ok o u) ∧
    ∀ f u, invoke (.reading read) name source s.policy.lintOptions s = .error f u →
      ∃ t, compile (.reading read) name source s = .error f t ∧ (∃ r, f = .raised r) ∧
        t.registry = u.registry ∧ t.archive = u.archive := by
  rcases compile_cases hs.sound hp.isPaired hrecovery hinactive with
    ⟨e, he, hends, hcarries, hscopes⟩ | ⟨⟨o, u, hinvoke, ho⟩, f, t, hcompile, hrejection, hregistry,
      hcontexts, hscopes⟩
  · obtain ⟨u, hcontexts, hregistry, -, hinvoke⟩ := invoke_of_ends hends hs.sound (.refl _)
    obtain ⟨r, hr⟩ | ⟨hsucceeded, -⟩ := id he
    · rw [hr] at hinvoke
      obtain ⟨t, hcompile⟩ := hcarries.raised r hr
      refine ⟨⟨fun hrecovers => ?_, fun ⟨o, v, hv⟩ => (by cases hinvoke.symm.trans hv)⟩,
        fun f v hv => ?_⟩
      · -- a verdict is missing, but the compilation does not end with a rejection
        obtain ⟨f, v, herror, -⟩ := hrecovers.rejected fun ⟨o, v, hv, _⟩ => by
          cases hinvoke.symm.trans hv
        cases hcompile.symm.trans herror
      · cases hinvoke.symm.trans hv
        have harchive := hcarries.archive
        have hsame := hcarries.registry
        rw [hcompile] at harchive hsame
        rw [← hcontexts] at harchive
        exact ⟨t, hcompile, ⟨r, rfl⟩, hsame.trans hregistry.symm, harchive⟩
    · rw [hsucceeded] at hinvoke
      obtain ⟨o, hinvoke, ho⟩ := hinvoke
      refine ⟨⟨fun _ => ⟨o, u, hinvoke⟩, fun _ => ?_⟩, fun f v hv => (by cases hinvoke.symm.trans hv)⟩
      exact recovers_of_published he hsucceeded hcarries hscopes hinvoke ho hcontexts hregistry
  · refine ⟨⟨fun _ => ⟨o, u, hinvoke⟩, fun _ => ?_⟩, fun f v hv => (by cases hinvoke.symm.trans hv)⟩
    exact recovers_of_rejected hinactive hinvoke ho hcompile hrejection hregistry hcontexts hscopes

/-! ## A source that the reader cannot take -/

/-- The policy of a session after a change is one that changes lead to. -/
theorem configured_after (h : s.policy.Configured) (change : Change) :
    (s.after (Operation.configure change).perform).policy.Configured := by
  show (s.after (Compiler.configure change)).policy.Configured
  cases hrefused : change.refused? with
  | some asked =>
    rw [Session.after, configure_error hrefused]
    exact h
  | none =>
    rw [Session.after, configure_ok hrefused]
    exact h.change change (Policy.configure_eq_ok.2 ⟨hrefused, rfl⟩)

/-- A session with lint recovery, where a version may be the oldest to be compiled for. -/
def recovering (version : Option String) : Session :=
  Session.performed {} [.configure { target := version, lintRecovery := some true }]

theorem recovering_reachable (version : Option String) : (recovering version).Reachable :=
  (Session.Reachable.fresh Session.isFresh_empty).performed _

theorem recovering_configured (version : Option String) : (recovering version).policy.Configured :=
  configured_after .initial _

/-- A source with a lint warning is published in the second attempt. -/
theorem doubtful_recovers : (recovering none).policy.lintRecovery = true ∧
    (∀ id, ¬ Active (recovering none) "p.A_ts1" id) ∧
    Recovers readScript "p.A_ts1" "assert (1, 'x')\n" (recovering none) := by
  have hrecovery : (recovering none).policy.lintRecovery = true := by decide +kernel
  have hinactive : ∀ id, ¬ Active (recovering none) "p.A_ts1" id := by
    rintro id ⟨hid, -⟩
    have hnone : (recovering none).registry.lookup? "p.A" = none := by decide +kernel
    cases hnone.symm.trans hid
  have hrun : ((do
      let o ← invoke (.reading readScript) "p.A_ts1" "assert (1, 'x')\n"
        (recovering none).policy.lintOptions
      pure o.succeeded : Action Bool).run' (recovering none)) = some true := by
    decide +kernel
  obtain ⟨t, ht⟩ := Action.exists_of_run hrun
  obtain ⟨o, u, hinvoke, -⟩ := Action.bind_eq_ok.1 ht
  exact ⟨hrecovery, hinactive,
    (recovers_iff (recovering_reachable none) (recovering_configured none) hrecovery hinactive).1.2
      ⟨o, u, hinvoke⟩⟩

/-- The kind of the exception that a result is, if it is one. -/
def raisedKind? {α : Type} : EStateM.Result Failure Session α → Option String
  | .error (.raised r) _ => some r.kind
  | _ => none

theorem exists_of_raisedKind? {α : Type} {result : EStateM.Result Failure Session α} {kind : String}
    (h : raisedKind? result = some kind) : ∃ r t, result = .error (.raised r) t ∧ r.kind = kind := by
  unfold raisedKind? at h
  split at h
  · exact ⟨_, _, rfl, Option.some.inj h⟩
  · cases h

/-- A version whose number is too great for the reader ends the compilation with an exception, and not
with a rejection. -/
theorem unreadable_raises : (recovering "3.99999999999").Reachable ∧
    (recovering "3.99999999999").policy.Configured ∧
    (recovering "3.99999999999").policy.lintRecovery = true ∧
    (recovering "3.99999999999").registry.lookup? "p.A" = none ∧
    (∃ r t, compile .standard "p.A_ts1" "x = 1\n" (recovering "3.99999999999") =
      .error (.raised r) t ∧ r.kind = "OverflowError") ∧
    ¬ Recovers readScript "p.A_ts1" "x = 1\n" (recovering "3.99999999999") := by
  have hcompile : raisedKind? (compile .standard "p.A_ts1" "x = 1\n" (recovering "3.99999999999")) =
      some "OverflowError" := by decide +kernel
  have hinvoke : raisedKind? (invoke (.reading readScript) "p.A_ts1" "x = 1\n"
      (recovering "3.99999999999").policy.lintOptions (recovering "3.99999999999")) =
      some "OverflowError" := by decide +kernel
  have hraises := exists_of_raisedKind? hcompile
  refine ⟨recovering_reachable _, recovering_configured _, by decide +kernel, by decide +kernel,
    hraises, fun hrecovers => ?_⟩
  obtain ⟨r, t, hr, -⟩ := hraises
  obtain ⟨r', t', hr', -⟩ := exists_of_raisedKind? hinvoke
  obtain ⟨f, u, hf, -⟩ := hrecovers.rejected fun ⟨o, v, hv, _⟩ => by cases hr'.symm.trans hv
  cases hr.symm.trans hf

end Compiler

end UnitFoundry
