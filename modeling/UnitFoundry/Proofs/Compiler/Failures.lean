import UnitFoundry.Proofs.Compiler.Documented

/-!
# Failures that a compilation ends with as they are

The errors of the library are what a compilation makes of what goes wrong, and one of them may lead to a second
attempt. All other failures end it as they are. They come from two places only: the backend has failed with them,
or a load of the compilation has.

* `compile_of_answer` — what a backend fails with is what the compilation ends with;
* `answer_or_passesOn` — there is nothing else but a load that a compilation fails with so;
* `PassesOn.escapes` — how such a load fails;
* `compile_fails_iff` — **the failures that a compilation ends with as they are**.
-/

namespace UnitFoundry.Compiler

open Script Text

variable {backend : Backend} {name source : String} {s t u : Session} {id : ContextId} {f : Failure}
  {i : Invocation}

/-- What a backend fails with is what the compilation ends with, unless it is an error of the library. -/
theorem compile_of_answer (hi : i ∈ invocations backend name source s) (ha : i.answer = .error f)
    (hf : ∀ e, f ≠ .error e) : compile backend name source s = .error f i.after := by
  have hconclude : i.conclude name source = .error f i.after := by rw [Invocation.conclude, ha]
  rcases List.mem_append.1 hi with hfirst | hsecond
  · have honce := (compileOnce_of_invocation (Option.mem_toList.1 hfirst)).trans hconclude
    -- only an error of the library leads to a second attempt
    have hnone : secondStart? backend name source s = none := by
      rw [Option.eq_none_iff_forall_ne_some]
      intro v hv
      obtain ⟨e, w, herror, -⟩ := secondStart?_eq_some hv
      cases honce.symm.trans herror
      exact hf e rfl
    exact (compile_of_secondStart?_none hnone).trans honce
  · obtain ⟨v, hv, hi⟩ := Option.bind_eq_some_iff.1 (Option.mem_toList.1 hsecond)
    exact (compile_of_secondStart?_some hv).trans ((compileOnce_of_invocation hi).trans hconclude)

/-- What a compilation ends with as it is comes from its backend or from one of its loads. -/
theorem answer_or_passesOn (hs : s.Sound) (h : compile backend name source s = .error f t)
    (hf : ∀ e, f ≠ .error e) :
    (∃ i ∈ invocations backend name source s, i.answer = .error f) ∨
      ∃ id u, PassesOn backend name source s id u f := by
  -- an attempt of the compilation, which its failure is that of
  have hattempt {options : Options} {u : Session} (hu : u.Sound)
      (hstart : u = s ∨ secondStart? backend name source s = some u)
      (hmem : ∀ i, invocation? backend name source options u = some i → i ∈ invocations backend name source s)
      (h : compileOnce backend name source options u = .error f t) :
      (∃ i ∈ invocations backend name source s, i.answer = .error f) ∨
        ∃ id u, PassesOn backend name source s id u f := by
    by_cases hanswers : ∀ i, invocation? backend name source options u = some i → ∃ o, i.answer = .ok o
    · rcases compileOnce_cases hu hanswers h with
        hdocumented | ⟨id, v, hactive, hload, hne⟩ | ⟨i, o, active, log, v, hi, ho, hsucceeded, hactive, hsettle, hload⟩
      · cases f with
        | error e => exact absurd rfl (hf e)
        | invalid | raised | thrown => cases hdocumented
      · exact .inr ⟨id, u, .serving hstart hactive hload hne⟩
      · exact .inr ⟨_, _, .finishing (hmem i hi) ho hsucceeded hactive hsettle hload⟩
    · obtain ⟨i, hi, hnone⟩ : ∃ i, invocation? backend name source options u = some i ∧ ¬ ∃ o, i.answer = .ok o := by
        simpa using hanswers
      have hconclude := (compileOnce_of_invocation hi).symm.trans h
      refine .inl ⟨i, hmem i hi, ?_⟩
      cases ha : i.answer with
      | ok o => exact absurd ⟨o, ha⟩ hnone
      | error g =>
        rw [Invocation.conclude, ha] at hconclude
        cases hconclude
        rfl
  cases hstart : secondStart? backend name source s with
  | none =>
    rw [compile_of_secondStart?_none hstart] at h
    exact hattempt hs (.inl rfl) (fun i hi => List.mem_append_left _ (Option.mem_toList.2 hi)) h
  | some u =>
    rw [compile_of_secondStart?_some hstart] at h
    have hu : u.Sound := inv_of_secondStart Session.soundCompiling hs hstart
    refine hattempt hu (.inr hstart) (fun i hi => List.mem_append_right _ ?_) h
    rw [hstart]
    exact Option.mem_toList.2 hi

/-- A load of a compilation fails with what is no error of the library only by one of the ways round. -/
theorem PassesOn.escapes (h : PassesOn backend name source s id u f) (hs : s.Regular) (hf : ∀ e, f ≠ .error e) :
    Loader.Escapes u id := by
  have hother : f.isArtifactLoad = false := by
    cases f with
    | error e => exact absurd rfl (hf e)
    | invalid | raised | thrown => rfl
  obtain ⟨c, hc, hfrozen⟩ := h.hasFinished hs.reachable.sound hs.settled
  cases h with
  | serving _ _ hload _ => exact Loader.escapes_of_load hc hfrozen hload hother
  | finishing _ _ _ _ _ hload => exact Loader.escapes_of_load hc hfrozen hload hother

/-- **The failures that a compilation ends with as they are**: what its backend fails with, and what a load of it
does by one of the ways round. -/
theorem compile_fails_iff (hs : s.Regular) (hf : ∀ e, f ≠ .error e) :
    (∃ t, compile backend name source s = .error f t) ↔
      (∃ i ∈ invocations backend name source s, i.answer = .error f) ∨
        ∃ id u, PassesOn backend name source s id u f ∧ Loader.Escapes u id := by
  constructor
  · rintro ⟨t, h⟩
    refine (answer_or_passesOn hs.reachable.sound h hf).imp_right ?_
    rintro ⟨id, u, hpasses⟩
    exact ⟨id, u, hpasses, hpasses.escapes hs hf⟩
  · rintro (⟨i, hi, ha⟩ | ⟨id, u, hpasses, -⟩)
    · exact ⟨_, compile_of_answer hi ha hf⟩
    · exact hpasses.compile_eq hs.reachable.sound

end UnitFoundry.Compiler
