import UnitFoundry.Backend.Standard
import UnitFoundry.Proofs.Compiler.Competition
import UnitFoundry.Proofs.Loader.Escapes
import UnitFoundry.Proofs.Session.Finished

/-!
# What compilations end with

A compilation hands out a module, or ends with an error of three kinds: the source was rejected, nothing was
registered for the unit, or the artifact could not be made a module. What else it may end with, one of its
loads has failed with: the load by which an active unit is served, or the one that follows a success. As
long as contexts are published by writers only, both are loads of finished artifacts, and such a load fails
otherwise in a few ways only.

* `Documented` — the ways in which a compilation is meant to end;
* `PassesOn` — a compilation ends as one of its loads has failed;
* `cases_of_error` — every failure of a compilation is a rejection, a missing unit, or passed on;
* `PassesOn.hasFinished` — what these loads are of is finished;
* `documented_iff` — **a compilation ends as it is meant to unless it passes on a failure that escapes**;
* `wordless_undocumented` — a body whose failure cannot be put into words.
-/

namespace UnitFoundry.Compiler

open Script Text Emission

/-- Whether a failure is of the kinds that a compilation is meant to end with. -/
def isDocumented : Failure → Bool
  | .error e =>
    match e.kind with
    | .compilation _ | .internalInvariant | .artifactLoad => true
    | _ => false
  | _ => false

/-- A compilation ends as it is meant to: with a module, or with an error of one of three kinds. -/
def Documented : EStateM.Result Failure Session ModuleId → Prop
  | .ok _ _ => True
  | .error f _ => isDocumented f = true

instance : DecidablePred Documented
  | .ok _ _ => .isTrue trivial
  | .error f _ => inferInstanceAs (Decidable (isDocumented f = true))

/-- A compilation ends as a load has failed that it makes of a context: of the active one, which it serves
unless its artifact turns out to be of no use, or of what it loads after a success. -/
inductive PassesOn (backend : Backend) (name source : String) (s : Session) :
    ContextId → Session → Failure → Prop where
  | serving {id : ContextId} {u t : Session} {f : Failure}
    (hstart : u = s ∨ secondStart? backend name source s = some u) (hactive : Active u name id)
    (hload : Loader.load id u = .error f t) (hf : ∀ e, f ≠ .error e) :
    PassesOn backend name source s id u f
  | finishing {i : Invocation} {o : Outcome} {active : ContextId} {log : List Record} {f : Failure}
    {t : Session} (hi : i ∈ invocations backend name source s) (ho : i.answer = .ok o)
    (hsucceeded : o.succeeded = true)
    (hactive : i.after.registry.lookup? (UnitName.canonical name) = some active)
    (hsettle : settle name source o i.after =
      Loader.load ((lookupEntry name o.published).getD active) { i.after with log })
    (hload : Loader.load ((lookupEntry name o.published).getD active) { i.after with log } = .error f t) :
    PassesOn backend name source s ((lookupEntry name o.published).getD active) { i.after with log } f

variable {backend : Backend} {name source : String} {options : Options} {s t u : Session}
  {id : ContextId} {f : Failure} {i : Invocation} {o : Outcome}

theorem isDocumented_of_isArtifactLoad (h : f.isArtifactLoad = true) : isDocumented f = true := by
  cases f with
  | error e => cases hkind : e.kind <;> simp_all [Failure.isArtifactLoad, isDocumented]
  | invalid => cases h
  | raised => cases h
  | thrown => cases h

/-- Of the failures of loads one kind is documented. -/
theorem isArtifactLoad_of_isOfLoad (hf : f.IsOfLoad) (h : isDocumented f = true) :
    f.isArtifactLoad = true := by
  cases f with
  | error e =>
    cases hkind : e.kind <;> simp_all [Failure.IsOfLoad, isUnusable, isDocumented, Failure.isArtifactLoad]
  | invalid => cases h
  | raised => cases h
  | thrown => cases h

/-! ## Failures of attempts -/

/-- What is served fails as the load of the active context does. -/
theorem load_of_cached_error (hs : s.Sound) (h : cached name s = .error f t) :
    ∃ id u, Active s name id ∧ Loader.load id s = .error f u ∧ ∀ e, f ≠ .error e := by
  obtain ⟨id, hactive⟩ := active_of_cached hs fun u hnone => by cases hnone.symm.trans h
  have hf := ne_error_of_cached hs h
  cases hl : Loader.load id s with
  | ok m u =>
    obtain ⟨log, hsome⟩ := cached_of_load hactive hl
    cases hsome.symm.trans h
  | error g u =>
    by_cases hg : ∃ e, g = .error e
    · obtain ⟨e, rfl⟩ := hg
      obtain ⟨log, hnone⟩ := cached_of_unusable hactive hl
      cases hnone.symm.trans h
    · cases (cached_of_exception hactive (not_exists.1 hg) hl).symm.trans h
      exact ⟨id, _, hactive, hl, hf⟩

/-- An attempt whose backend has answered fails by a rejection, for want of a registered unit, or as one of
its loads does. -/
theorem compileOnce_cases (hs : u.Sound)
    (hanswers : ∀ i, invocation? backend name source options u = some i → ∃ o, i.answer = .ok o)
    (h : compileOnce backend name source options u = .error f t) :
    isDocumented f = true ∨
      (∃ id v, Active u name id ∧ Loader.load id u = .error f v ∧ ∀ e, f ≠ .error e) ∨
      ∃ i o active log v, invocation? backend name source options u = some i ∧ i.answer = .ok o ∧
        o.succeeded = true ∧ i.after.registry.lookup? (UnitName.canonical name) = some active ∧
        settle name source o i.after =
          Loader.load ((lookupEntry name o.published).getD active) { i.after with log } ∧
        Loader.load ((lookupEntry name o.published).getD active) { i.after with log } = .error f v := by
  cases hinvoked : invocation? backend name source options u with
  | none =>
    -- nothing is invoked, so that what is active decides
    rw [compileOnce] at h
    rcases Action.bind_eq_error.1 h with hcached | ⟨found, v, hcached, hrest⟩
    · exact .inr (.inl (load_of_cached_error hs hcached))
    · cases found with
      | some m => cases hrest
      | none =>
        obtain ⟨i, hi, -⟩ := exists_invocation backend source options hcached
        cases hi.symm.trans hinvoked
  | some i =>
    obtain ⟨o, ho⟩ := hanswers i hinvoked
    have hsettle : settle name source o i.after = .error f t := by
      rw [← h, compileOnce_of_invocation hinvoked, Invocation.conclude, ho]
    cases hsucceeded : o.succeeded with
    | false =>
      rw [settle, hsucceeded] at hsettle
      cases hsettle
      exact .inl rfl
    | true =>
      have hafter : i.after.Sound := (inv_of_invocation Session.soundCompiling hs hinvoked).2
      have hpublished : settle name source o i.after = loadPublished name o.published i.after := by
        rw [settle, hsucceeded]
        rfl
      cases hactive : i.after.registry.lookup? (UnitName.canonical name) with
      | none =>
        cases (hpublished.trans (loadPublished_of_empty hactive)).symm.trans hsettle
        exact .inl rfl
      | some active =>
        obtain ⟨log, hload⟩ := loadPublished_of_active hafter o.published hactive
        have hload := hpublished.trans hload
        exact .inr (.inr ⟨i, o, active, log, t, rfl, ho, hsucceeded, hactive, hload,
          hload.symm.trans hsettle⟩)

/-! ## Failures of compilations -/

/-- **Every failure of a compilation whose backend has answered is of the kinds it is meant to end with, or
one of its loads has failed with it.** -/
theorem cases_of_error (hs : s.Sound)
    (hanswers : ∀ i ∈ invocations backend name source s, ∃ o, i.answer = .ok o)
    (h : compile backend name source s = .error f t) :
    isDocumented f = true ∨ ∃ id u, PassesOn backend name source s id u f := by
  -- an attempt of the compilation, which its failure is that of
  have hattempt {options : Options} {u : Session} (hu : u.Sound)
      (hstart : u = s ∨ secondStart? backend name source s = some u)
      (hmem : ∀ i, invocation? backend name source options u = some i →
        i ∈ invocations backend name source s)
      (h : compileOnce backend name source options u = .error f t) :
      isDocumented f = true ∨ ∃ id u, PassesOn backend name source s id u f := by
    rcases compileOnce_cases hu (fun i hi => hanswers i (hmem i hi)) h with
      hdocumented | ⟨id, v, hactive, hload, hf⟩ |
      ⟨i, o, active, log, v, hi, ho, hsucceeded, hactive, hsettle, hload⟩
    · exact .inl hdocumented
    · exact .inr ⟨id, u, .serving hstart hactive hload hf⟩
    · exact .inr ⟨_, _, .finishing (hmem i hi) ho hsucceeded hactive hsettle hload⟩
  cases hstart : secondStart? backend name source s with
  | none =>
    rw [compile_of_secondStart?_none hstart] at h
    exact hattempt hs (.inl rfl) (fun i hi => List.mem_append_left _ (Option.mem_toList.2 hi)) h
  | some u =>
    rw [compile_of_secondStart?_some hstart] at h
    have hu : u.Sound := inv_of_secondStart Session.soundCompiling hs hstart
    refine hattempt hu (.inr hstart) (fun i hi => List.mem_append_right _ ?_) h
    rw [hstart]
    exact Option.mem_toList.2 hi

/-- What is passed on is what the compilation ends with. -/
theorem PassesOn.compile_eq (h : PassesOn backend name source s id u f) (hs : s.Sound) :
    ∃ t, compile backend name source s = .error f t := by
  cases h with
  | @serving id u t f hstart hactive hload hf =>
    have honce (options : Options) : compileOnce backend name source options u = .error f t := by
      rw [compileOnce, Action.bind_error (cached_of_exception hactive hf hload)]
    rcases hstart with rfl | hstart
    · refine ⟨t, (compile_of_secondStart?_none ?_).trans (honce _)⟩
      rw [Option.eq_none_iff_forall_ne_some]
      intro v hv
      obtain ⟨e, w, herror, -⟩ := secondStart?_eq_some hv
      cases (honce _).symm.trans herror
      exact hf e rfl
    · exact ⟨t, (compile_of_secondStart?_some hstart).trans (honce _)⟩
  | @finishing i o active log f t hi ho hsucceeded _ hsettle hload =>
    exact ⟨t, (compile_of_succeeded hs hi ho hsucceeded).trans (hsettle.trans hload)⟩

/-! ## What is loaded is finished -/

/-- What a scope remembers of an invocation that nobody interferes with is finished. -/
theorem hasFinished_published (hs : s.Sound) (hsettled : s.Settled)
    (hi : i ∈ invocations backend name source s) (ho : i.answer = .ok o) (hsucceeded : o.succeeded = true)
    (hid : lookupEntry name o.published = some id) : i.after.HasFinished id := by
  have hbefore : i.before.Sound := (inv_of_mem Session.soundCompiling hs hi).1
  have hstart : (i.start name source).Sound := hbefore.congr rfl rfl rfl
  have hsettled' : (i.start name source).Settled :=
    (inv_of_mem Session.finishingCompiling hsettled hi).1.congr rfl fun _ hid => hid
  have hcourse := course_of_invocation hi ho hsucceeded
  have hopen : (i.start name source).scopes[i.scope]? = some [] := List.getElem?_concat_length
  obtain ⟨found, hfound, hlast⟩ := (hcourse.emits hstart).2.emitted i.scope [] hopen
  rw [(run_of_invocation hi ho).2, hfound, Option.getD_some, hlast] at hid
  have hlookup : lastSet? (Publication.through i.scope _) name = some id := hid ▸ Option.or_none.symm
  obtain ⟨p, hp, heq⟩ := List.mem_map.1 (mem_of_lastSet? hlookup)
  obtain rfl : p.context = id := congrArg Prod.snd heq
  exact (hcourse.finished hstart hsettled').2.2 p (List.mem_filter.1 hp).1

/-- **What is loaded is finished**, as long as all that is registered is. -/
theorem PassesOn.hasFinished (h : PassesOn backend name source s id u f) (hs : s.Sound)
    (hsettled : s.Settled) : u.HasFinished id := by
  cases h with
  | serving hstart hactive hload hf =>
    have hu : u.Settled := by
      rcases hstart with rfl | hstart
      · exact hsettled
      · exact inv_of_secondStart Session.finishingCompiling hsettled hstart
    exact hu _ id hactive.1
  | @finishing i o active log _ _ hi ho hsucceeded hactive _ _ =>
    have hafter : i.after.Settled := (inv_of_mem Session.finishingCompiling hsettled hi).2
    show i.after.HasFinished _
    cases hid : lookupEntry name o.published with
    | none => exact hafter _ active hactive
    | some chosen => exact hasFinished_published hs hsettled hi ho hsucceeded hid

/-! ## How compilations end -/

/-- **A compilation ends as it is meant to unless it passes on a failure that escapes.** Let contexts be
published by writers only, and let every invocation of the backend end with an answer. Then the compilation
hands out a module or ends with a rejection, for want of a registered unit, or because an artifact could not be
made a module, unless one of its loads fails otherwise, which it does only if the side store or the body asks
to leave the program, if the payload is refused by an exception that does not count as corruption, or if the
body fails with a failure whose wording fails. -/
theorem documented_iff (h : s.Regular)
    (hanswers : ∀ i ∈ invocations backend name source s, ∃ o, i.answer = .ok o) :
    Documented (compile backend name source s) ↔
      ¬ ∃ id u f, PassesOn backend name source s id u f ∧ f.isArtifactLoad = false ∧
        Loader.Escapes u id := by
  have hs := h.reachable.sound
  constructor
  · rintro hdocumented ⟨id, u, f, hpasses, hf, -⟩
    obtain ⟨t, hcompile⟩ := hpasses.compile_eq hs
    rw [hcompile] at hdocumented
    have hload : f.IsOfLoad := by
      cases hpasses with
      | serving _ _ hload _ => exact Loader.load_fails hload
      | finishing _ _ _ _ _ hload => exact Loader.load_fails hload
    rw [isArtifactLoad_of_isOfLoad hload hdocumented] at hf
    cases hf
  · intro hnone
    cases hcompile : compile backend name source s with
    | ok m t => trivial
    | error f t =>
      rcases cases_of_error hs hanswers hcompile with hdocumented | ⟨id, u, hpasses⟩
      · exact hdocumented
      · cases hf : f.isArtifactLoad with
        | true => exact isDocumented_of_isArtifactLoad hf
        | false =>
          obtain ⟨c, hc, hfrozen⟩ := hpasses.hasFinished hs h.settled
          have hescapes : Loader.Escapes u id := by
            cases hpasses with
            | serving _ _ hload _ => exact Loader.escapes_of_load hc hfrozen hload hf
            | finishing _ _ _ _ _ hload => exact Loader.escapes_of_load hc hfrozen hload hf
          exact absurd ⟨id, u, f, hpasses, hf, hescapes⟩ hnone

/-! ## A failure without words -/

/-- A source whose body fails with an exception that cannot be put into words. -/
def wordless : String :=
  "class C:\n    def __str__(self):\n        raise ValueError('x')\nraise Exception(C())\n"

theorem wordless_answers :
    ∀ i ∈ invocations .standard "p.A_ts1" wordless {}, ∃ o, i.answer = .ok o := by
  have hall : (invocations .standard "p.A_ts1" wordless {}).all (·.outcome?.isSome) = true := by
    decide +kernel
  intro i hi
  obtain ⟨o, ho⟩ := Option.isSome_iff_exists.1 (List.all_eq_true.1 hall i hi)
  exact ⟨o, Invocation.answer_of_outcome? ho⟩

theorem wordless_compile :
    (leftBy (compile .standard "p.A_ts1" wordless {})).history = [.begun 0 0, .ended 0 0 .failed] ∧
    ¬ Documented (compile .standard "p.A_ts1" wordless {}) := by
  decide +kernel

/-- The body fails and asks for nothing else, but the compilation ends with the exception that the words for
its failure have raised. -/
theorem wordless_undocumented : Session.Regular {} ∧
    (∀ i ∈ invocations .standard "p.A_ts1" wordless {}, ∃ o, i.answer = .ok o) ∧
    (leftBy (compile .standard "p.A_ts1" wordless {})).history = [.begun 0 0, .ended 0 0 .failed] ∧
    ¬ Documented (compile .standard "p.A_ts1" wordless {}) :=
  ⟨.fresh Session.isFresh_empty, wordless_answers, wordless_compile⟩

/-- It passes on what has escaped. -/
theorem wordless_passesOn : Session.Regular {} ∧
    (∀ i ∈ invocations .standard "p.A_ts1" wordless {}, ∃ o, i.answer = .ok o) ∧
    ∃ id u f, PassesOn .standard "p.A_ts1" wordless {} id u f ∧ f.isArtifactLoad = false ∧
      Loader.Escapes u id := by
  have hregular : Session.Regular {} := .fresh Session.isFresh_empty
  have hundocumented := wordless_compile.2
  rw [documented_iff hregular wordless_answers, not_not] at hundocumented
  exact ⟨hregular, wordless_answers, hundocumented⟩

end UnitFoundry.Compiler
