import UnitFoundry.Proofs.Compiler.Cache

/-!
# The invocations of a compilation

A compilation makes one attempt or two. An attempt invokes the backend unless something is served, and
ends as its invocation does: with the settling of the outcome, or with the failure of the backend. So
what a compilation ends with can be read off its last invocation.

* `Invocation` — an invocation of the backend, from one session to another;
* `secondStart?` — the session in which a second attempt starts;
* `invocations` — the invocations of a compilation, in order;
* `inv_of_mem` — **what compilations keep to** holds before and after each of their invocations;
* `invocations_ne_nil_iff` — **a backend is invoked exactly if nothing is served**;
* `compile_of_succeeded` — **a reported success decides**: there is no invocation after it.
-/

namespace UnitFoundry.Compiler

open Script Text

/-- An invocation of a backend within a compilation: its options, the session it starts in, what it
ends with, and the session it leaves behind. -/
structure Invocation where
  options : Options
  before : Session
  answer : Except Failure Outcome
  after : Session

namespace Invocation

/-- What the backend has answered, if it has not failed. -/
def outcome? (i : Invocation) : Option Outcome := i.answer.toOption

theorem answer_of_outcome? {i : Invocation} {o : Outcome} (h : i.outcome? = some o) :
    i.answer = .ok o := by
  unfold outcome? at h
  cases ha : i.answer with
  | error f =>
    rw [ha] at h
    cases h
  | ok answer =>
    rw [ha] at h
    cases h
    rfl

/-- The backend has rejected the source. -/
def Rejected (i : Invocation) : Prop := ∃ o, i.answer = .ok o ∧ o.succeeded = false

/-- What an attempt ends with after an invocation. -/
def conclude (i : Invocation) (name source : String) : EStateM.Result Failure Session ModuleId :=
  match i.answer with
  | .ok outcome => settle name source outcome i.after
  | .error failure => .error failure i.after

end Invocation

/-- The invocation of an attempt. There is none if something is served. -/
def invocation? (backend : Backend) (name source : String) (options : Options) (s : Session) :
    Option Invocation :=
  match cached name s with
  | .ok none before =>
    match invoke backend name source options before with
    | .ok outcome after => some { options, before, answer := .ok outcome, after }
    | .error failure after => some { options, before, answer := .error failure, after }
  | _ => none

/-- A session after the record of a second attempt. -/
def noted (name : String) (options : Options) (s : Session) : Session :=
  { s with log := record s.level s.log ⟨.info, .compiler, retryText name options⟩ }

/-- The session in which the second attempt of a compilation starts, if there is one. -/
def secondStart? (backend : Backend) (name source : String) (s : Session) : Option Session :=
  match compileOnce backend name source s.policy.options s with
  | .error (.error e) t =>
    if isRetried s.policy e then some (noted name s.policy.lintOptions t) else none
  | _ => none

/-- The invocations of a compilation, in order. -/
def invocations (backend : Backend) (name source : String) (s : Session) : List Invocation :=
  (invocation? backend name source s.policy.options s).toList ++
    ((secondStart? backend name source s).bind
      (invocation? backend name source s.policy.lintOptions)).toList

variable {backend : Backend} {name source : String} {options : Options} {s t : Session}
  {i : Invocation} {o : Outcome}

/-! ## Attempts -/

theorem exists_invocation (backend : Backend) (source : String) (options : Options)
    (h : cached name s = .ok none t) :
    ∃ i, invocation? backend name source options s = some i ∧ i.before = t := by
  unfold invocation?
  rw [h]
  dsimp only
  cases invoke backend name source options t with
  | ok outcome u => exact ⟨_, rfl, rfl⟩
  | error failure u => exact ⟨_, rfl, rfl⟩

/-- An invocation starts where nothing was served, and ends with a value or a failure. -/
theorem invocation?_cases (h : invocation? backend name source options s = some i) :
    cached name s = .ok none i.before ∧
      ((∃ o, i.answer = .ok o ∧ invoke backend name source options i.before = .ok o i.after) ∨
        ∃ f, i.answer = .error f ∧
          invoke backend name source options i.before = .error f i.after) := by
  unfold invocation? at h
  split at h
  · rename_i before hcached
    split at h
    · rename_i outcome after hinvoke
      cases h
      exact ⟨hcached, .inl ⟨outcome, rfl, hinvoke⟩⟩
    · rename_i failure after hinvoke
      cases h
      exact ⟨hcached, .inr ⟨failure, rfl, hinvoke⟩⟩
  · cases h

/-- An invocation is made under the options of its attempt. -/
theorem options_of_invocation? (h : invocation? backend name source options s = some i) :
    i.options = options := by
  unfold invocation? at h
  split at h
  · split at h
    all_goals
      cases h
      rfl
  · cases h

/-- An attempt ends as its invocation does. -/
theorem compileOnce_of_invocation (h : invocation? backend name source options s = some i) :
    compileOnce backend name source options s = i.conclude name source := by
  obtain ⟨hcached, ⟨o, ho, hinvoke⟩ | ⟨f, hf, hinvoke⟩⟩ := invocation?_cases h
  · rw [compileOnce, Action.bind_ok hcached, Invocation.conclude, ho]
    exact Action.bind_ok hinvoke
  · rw [compileOnce, Action.bind_ok hcached, Invocation.conclude, hf]
    exact Action.bind_error hinvoke

/-- An attempt of which the backend is no part does not end with an error. -/
theorem compileOnce_ne_error (hs : s.Sound)
    (h : invocation? backend name source options s = none) {e : FoundryError} :
    compileOnce backend name source options s ≠ .error (.error e) t := by
  intro herror
  rw [compileOnce] at herror
  rcases Action.bind_eq_error.1 herror with hcached | ⟨found, u, hcached, hrest⟩
  · exact ne_error_of_cached hs hcached e rfl
  · cases found with
    | some m => cases hrest
    | none =>
      obtain ⟨i, hi, -⟩ := exists_invocation backend source options hcached
      cases hi.symm.trans h

/-! ## One attempt or two -/

theorem compile_of_secondStart?_none (h : secondStart? backend name source s = none) :
    compile backend name source s = compileOnce backend name source s.policy.options s := by
  unfold secondStart? at h
  rw [compile, Action.bind_ok (Action.get_apply s)]
  cases honce : compileOnce backend name source s.policy.options s with
  | ok m t =>
    rw [Action.bind_ok (Action.attempt_ok honce)]
    rfl
  | error f t =>
    rw [Action.bind_ok (Action.attempt_error honce)]
    cases f with
    | error e =>
      rw [honce] at h
      dsimp only at h ⊢
      by_cases hretried : isRetried s.policy e
      · rw [if_pos hretried] at h
        cases h
      · rw [if_neg hretried]
        rfl
    | invalid => rfl
    | raised => rfl
    | thrown => rfl

theorem secondStart?_eq_some (h : secondStart? backend name source s = some t) :
    ∃ e u, compileOnce backend name source s.policy.options s = .error (.error e) u ∧
      isRetried s.policy e ∧ t = noted name s.policy.lintOptions u := by
  unfold secondStart? at h
  split at h
  · rename_i e u honce
    split at h
    · rename_i hretried
      cases h
      exact ⟨e, u, honce, hretried, rfl⟩
    · cases h
  · cases h

theorem compile_of_secondStart?_some (h : secondStart? backend name source s = some t) :
    compile backend name source s = compileOnce backend name source s.policy.lintOptions t := by
  obtain ⟨e, u, honce, hretried, rfl⟩ := secondStart?_eq_some h
  rw [compile, Action.bind_ok (Action.get_apply s), Action.bind_ok (Action.attempt_error honce)]
  dsimp only
  rw [if_pos hretried]
  rfl

/-! ## What holds before and after invocations -/

/-- What compilations keep to holds before and after the invocation of an attempt. -/
theorem inv_of_invocation (d : Compiling) (hs : d.inv s)
    (h : invocation? backend name source options s = some i)
    (hbackend : backend.Within d.toEmitting := by exact Emitting.IsFree.backend {} _) :
    d.inv i.before ∧ d.inv i.after := by
  obtain ⟨hcached, hinvoke⟩ := invocation?_cases h
  have hbefore := ((d.keeps_cached name).ok hs hcached).1
  have hkeeps := d.keeps_invoke backend name source options hbackend
  rcases hinvoke with ⟨o, -, hinvoke⟩ | ⟨f, -, hinvoke⟩
  · exact ⟨hbefore, (hkeeps.ok hbefore hinvoke).1⟩
  · exact ⟨hbefore, (hkeeps.error hbefore hinvoke).1⟩

theorem inv_of_secondStart (d : Compiling) (hs : d.inv s)
    (h : secondStart? backend name source s = some t)
    (hbackend : backend.Within d.toEmitting := by exact Emitting.IsFree.backend {} _) : d.inv t := by
  obtain ⟨e, u, honce, -, rfl⟩ := secondStart?_eq_some h
  have hkeeps := d.keeps_compileOnce backend name source s.policy.options hbackend
  have hu : d.inv u := (hkeeps.error hs honce).1
  have hsame : SameUnits u (noted name s.policy.lintOptions u) := .aside ..
  exact (d.aside hsame hu).1

/-- **What compilations keep to holds before and after each of their invocations.** -/
theorem inv_of_mem (d : Compiling) (hs : d.inv s) (hi : i ∈ invocations backend name source s)
    (hbackend : backend.Within d.toEmitting := by exact Emitting.IsFree.backend {} _) :
    d.inv i.before ∧ d.inv i.after := by
  rcases List.mem_append.1 hi with hfirst | hsecond
  · exact inv_of_invocation d hs (Option.mem_toList.1 hfirst) hbackend
  · obtain ⟨t, hstart, hi⟩ := Option.bind_eq_some_iff.1 (Option.mem_toList.1 hsecond)
    exact inv_of_invocation d (inv_of_secondStart d hs hstart hbackend) hi hbackend

/-! ## When a backend is invoked -/

/-- An attempt invokes no backend exactly if something is served. -/
theorem invocation?_eq_none_iff (backend : Backend) (source : String) (options : Options)
    (hs : s.Sound) :
    invocation? backend name source options s = none ↔ Serves s name := by
  constructor
  · intro hnone
    by_contra hserves
    obtain ⟨t, hcached⟩ := (cached_eq_none_iff hs).2 hserves
    obtain ⟨i, hi, -⟩ := exists_invocation backend source options hcached
    cases hi.symm.trans hnone
  · intro hserves
    rw [Option.eq_none_iff_forall_ne_some]
    intro i hi
    exact (cached_eq_none_iff hs).1 ⟨_, (invocation?_cases hi).1⟩ hserves

/-- An invocation is made under one of the two option sets of the policy. -/
theorem options_of_mem (hi : i ∈ invocations backend name source s) :
    i.options = s.policy.options ∨ i.options = s.policy.lintOptions := by
  rcases List.mem_append.1 hi with hfirst | hsecond
  · exact .inl (options_of_invocation? (Option.mem_toList.1 hfirst))
  · obtain ⟨t, -, hi⟩ := Option.bind_eq_some_iff.1 (Option.mem_toList.1 hsecond)
    exact .inr (options_of_invocation? hi)

/-- **A backend is invoked exactly if nothing is served.** -/
theorem invocations_ne_nil_iff (hs : s.Sound) :
    invocations backend name source s ≠ [] ↔ ¬ Serves s name := by
  rw [← invocation?_eq_none_iff backend source s.policy.options hs]
  constructor
  · intro hne hfirst
    have hsecond : secondStart? backend name source s = none := by
      rw [Option.eq_none_iff_forall_ne_some]
      intro t hstart
      obtain ⟨e, u, herror, -⟩ := secondStart?_eq_some hstart
      exact compileOnce_ne_error hs hfirst herror
    rw [invocations, hfirst, hsecond] at hne
    exact hne rfl
  · intro hfirst
    obtain ⟨i, hi⟩ := Option.ne_none_iff_exists'.1 hfirst
    rw [invocations, hi]
    exact List.cons_ne_nil _ _

/-! ## Success -/

/-- What the settling of a success ends with if nothing is active for the unit. -/
theorem loadPublished_of_empty {published : List (String × ContextId)}
    (hid : s.registry.lookup? (UnitName.canonical name) = none) :
    loadPublished name published s = .error (.error (.unregistered name)) s := by
  rw [loadPublished, Action.bind_ok (Action.lookup_apply _ s), hid]
  rfl

/-- What the settling of a success ends with if a context is active for the unit: a load, of the context
published under the very name if there is one, else of the active one. -/
theorem loadPublished_of_active (hs : s.Sound) (published : List (String × ContextId))
    {active : ContextId} (hid : s.registry.lookup? (UnitName.canonical name) = some active) :
    ∃ log, loadPublished name published s =
      Loader.load ((lookupEntry name published).getD active) { s with log } := by
  obtain ⟨c, hc⟩ : ∃ c, s.contexts[active]? = some c :=
    ⟨_, List.getElem?_eq_getElem (hs.linked _ active hid)⟩
  have hdone (chosen : ContextId) (log : List Record) : ∃ log', (do
      Action.logged .debug .compiler ("[compile:done] " ++ name)
      Loader.load chosen : Action ModuleId) { s with log } = Loader.load chosen { s with log := log' } :=
    ⟨_, Action.bind_ok (Action.logged_apply ..)⟩
  rw [loadPublished, Action.bind_ok (Action.lookup_apply _ s), hid]
  dsimp only
  by_cases hchosen : (lookupEntry name published).getD active = active
  · rw [if_neg (not_not_intro hchosen)]
    exact hdone _ s.log
  · rw [if_pos hchosen, Action.bind_ok (Action.context_some hc),
      Action.bind_ok (Action.logged_apply ..)]
    exact hdone _ _

/-- That an artifact cannot be used is no rejection. -/
theorem isRejection_of_isUnusable {e : FoundryError} (h : isUnusable e) : isRejection e = false := by
  unfold isUnusable at h
  unfold isRejection
  split at h
  · rename_i hkind
    rw [hkind]
  · rename_i hkind
    rw [hkind]
  · cases h

/-- A success does not end with a rejection. -/
theorem isRejection_of_settle (hs : s.Sound) (ho : o.succeeded = true) {e : FoundryError}
    (h : settle name source o s = .error (.error e) t) : isRejection e = false := by
  rw [settle, if_pos ho] at h
  cases hid : s.registry.lookup? (UnitName.canonical name) with
  | none =>
    cases (loadPublished_of_empty hid).symm.trans h
    rfl
  | some active =>
    obtain ⟨log, hload⟩ := loadPublished_of_active hs o.published hid
    exact isRejection_of_isUnusable (Loader.load_fails (hload.symm.trans h))

/-- **A reported success decides.** What a compilation ends with is what the settling of the success
ends with. -/
theorem compile_of_succeeded (hs : s.Sound) (hi : i ∈ invocations backend name source s)
    (ho : i.answer = .ok o) (hsucceeded : o.succeeded = true) :
    compile backend name source s = settle name source o i.after := by
  have hconclude : i.conclude name source = settle name source o i.after := by
    rw [Invocation.conclude, ho]
  rw [← hconclude]
  rcases List.mem_append.1 hi with hfirst | hsecond
  · have hi := Option.mem_toList.1 hfirst
    have honce := compileOnce_of_invocation hi
    have hnone : secondStart? backend name source s = none := by
      cases hstart : secondStart? backend name source s with
      | none => rfl
      | some t =>
        obtain ⟨e, u, herror, hretried, -⟩ := secondStart?_eq_some hstart
        have hsettle := hconclude.symm.trans (honce.symm.trans herror)
        have hsound : i.after.Sound := (inv_of_invocation Session.soundCompiling hs hi).2
        have hrejection := isRejection_of_settle hsound hsucceeded hsettle
        simp [isRetried, hrejection] at hretried
    exact (compile_of_secondStart?_none hnone).trans honce
  · obtain ⟨t, hstart, hi⟩ := Option.bind_eq_some_iff.1 (Option.mem_toList.1 hsecond)
    exact (compile_of_secondStart?_some hstart).trans (compileOnce_of_invocation hi)

end UnitFoundry.Compiler
