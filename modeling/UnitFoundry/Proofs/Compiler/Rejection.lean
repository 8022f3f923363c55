import UnitFoundry.Backend.Scenario
import UnitFoundry.Proofs.Compiler.Invocations

/-!
# Rejections

A backend may publish artifacts before it rejects a source. They stay published. So the rejection of a
unit is not the last word on it: the second attempt of the same compilation, and every later
compilation under the same name, first ask what is active, and may find what the backend has left
behind.

* `conclude_of_rejected` — an attempt ends with the rejection of its invocation;
* `secondStart?_of_rejected` — when a rejection is followed by a second attempt;
* `rejected_iff` — **when a compilation that is rejected throughout ends with a rejection**, and when
  the next one invokes the backend again;
* `rejected_served` — a unit that was rejected is handed out.
-/

namespace UnitFoundry.Compiler

open Script Text

variable {backend : Backend} {name source : String} {s t : Session} {i : Invocation} {o : Outcome}

/-! ## One rejection -/

/-- An attempt ends with the rejection of its invocation. -/
theorem conclude_of_rejected (name source : String) (ho : i.answer = .ok o)
    (hrejected : o.succeeded = false) :
    ∃ log, i.conclude name source =
      .error (.error (.rejected name o.found)) { i.after with log } := by
  have hsettle : settle name source o = (do
      Action.logged .debug .compiler
        ("Failed to compile " ++ name ++ ", source:\n" ++ numberedLines source)
      throw (.error (.rejected name o.found)) : Action ModuleId) := by
    rw [settle, if_neg (by rw [hrejected]; exact Bool.false_ne_true)]
  rw [Invocation.conclude, ho]
  dsimp only
  rw [hsettle, Action.bind_ok (Action.logged_apply ..)]
  exact ⟨_, rfl⟩

/-- A rejection of the first attempt is followed by a second one if the policy says so and a lint warning
was found. -/
theorem secondStart?_of_rejected (hi : invocation? backend name source s.policy.options s = some i)
    (ho : i.answer = .ok o) (hrejected : o.succeeded = false) :
    (secondStart? backend name source s).isSome ↔
      s.policy.lintRecovery ∧ o.found.any (Diagnostic.hasCategory lintRecoverable) := by
  obtain ⟨log, hconclude⟩ := conclude_of_rejected name source ho hrejected
  have hretried : isRetried s.policy (.rejected name o.found) =
      (s.policy.lintRecovery && o.found.any (Diagnostic.hasCategory lintRecoverable)) := rfl
  rw [secondStart?, compileOnce_of_invocation hi, hconclude]
  dsimp only
  rw [hretried, ← Bool.and_eq_true_iff]
  split
  · simp_all
  · simp_all

/-- The rejection of its invocation is what an attempt ends with. -/
theorem rejection_of_invocation {options : Options}
    (hi : invocation? backend name source options s = some i) (h : i.Rejected) :
    ∃ e t, compileOnce backend name source options s = .error (.error e) t ∧ isRejection e := by
  obtain ⟨o, ho, hrejected⟩ := h
  obtain ⟨log, hconclude⟩ := conclude_of_rejected name source ho hrejected
  exact ⟨_, _, (compileOnce_of_invocation hi).trans hconclude, rfl⟩

/-! ## Compilations that are rejected throughout -/

/-- **When a compilation that is rejected throughout ends with a rejection**: if there is no second
attempt, or nothing is served when it starts. The next compilation under the same name invokes the
backend again exactly if nothing is served in the session that this one leaves behind. -/
theorem rejected_iff (hs : s.Reachable) (hne : invocations backend name source s ≠ [])
    (hall : ∀ i ∈ invocations backend name source s, i.Rejected) :
    ((∃ e t, compile backend name source s = .error (.error e) t ∧ isRejection e) ↔
      ∀ t, secondStart? backend name source s = some t → ¬ Serves t name) ∧
    ∀ later, invocations backend name later
        (s.after (Operation.compile backend name source).perform) ≠ [] ↔
      ¬ Serves (s.after (Operation.compile backend name source).perform) name := by
  have hnext := hs.step (.compile backend name source)
  refine ⟨?_, fun later => invocations_ne_nil_iff hnext.sound⟩
  cases hstart : secondStart? backend name source s with
  | none =>
    rw [compile_of_secondStart?_none hstart]
    refine ⟨fun _ t ht => (by cases ht), fun _ => ?_⟩
    obtain ⟨i, hi⟩ : ∃ i, invocation? backend name source s.policy.options s = some i :=
      Option.ne_none_iff_exists'.1 fun hnone => by simp [invocations, hnone, hstart] at hne
    exact rejection_of_invocation hi (hall i (List.mem_append_left _ (Option.mem_toList.2 hi)))
  | some t =>
    have ht : t.Sound := inv_of_secondStart Session.soundCompiling hs.sound hstart
    rw [compile_of_secondStart?_some hstart]
    constructor
    · rintro ⟨e, u, herror, -⟩ _ ⟨⟩ hserves
      exact compileOnce_ne_error ht ((invocation?_eq_none_iff _ _ _ ht).2 hserves) herror
    · intro hserves
      have hsome : invocation? backend name source s.policy.lintOptions t ≠ none :=
        fun hnone => hserves t rfl ((invocation?_eq_none_iff _ _ _ ht).1 hnone)
      obtain ⟨i, hi⟩ := Option.ne_none_iff_exists'.1 hsome
      refine rejection_of_invocation hi (hall i (List.mem_append_right _ (Option.mem_toList.2 ?_)))
      rw [hstart]
      exact hi

/-- A backend that rejects every source and does nothing. -/
def refusing : Backend :=
  { className := "Backend", label := "refusing", compile := fun _ _ _ => .done false }

theorem refusing_rejected : Session.Reachable {} ∧ invocations refusing "p.A" "x = 1\n" {} ≠ [] ∧
    ∃ e t, compile refusing "p.A" "x = 1\n" {} = .error (.error e) t ∧ isRejection e := by
  have hreachable : Session.Reachable {} := .fresh Session.isFresh_empty
  obtain ⟨i, hi, ho⟩ : ∃ i, invocations refusing "p.A" "x = 1\n" {} = [i] ∧
      i.answer = .ok ⟨false, [], []⟩ := ⟨_, rfl, rfl⟩
  have hstart : secondStart? refusing "p.A" "x = 1\n" {} = none := rfl
  have hne : invocations refusing "p.A" "x = 1\n" {} ≠ [] := by simp [hi]
  refine ⟨hreachable, hne, (rejected_iff hreachable hne ?_).1.2 ?_⟩
  · rw [hi]
    rintro j hj
    obtain rfl := List.mem_singleton.1 hj
    exact ⟨_, ho, rfl⟩
  · rw [hstart]
    rintro t ⟨⟩

/-- A backend that publishes an artifact for every source and then rejects it. -/
def emitting : Backend := .fixed false [] (some (Scenario.artifactOf "p.A_ts1" "x = 1\n"))

/-- The session in which a unit was rejected by a backend that had published an artifact for it. -/
def rejecting : Session := Session.after (Operation.compile emitting "p.A_ts1" "x = \n").perform {}

/-- A unit that was rejected is handed out: the next compilation under its name takes the artifact which
the backend has published, and does not invoke the backend. -/
theorem rejected_served :
    (∃ i, invocations emitting "p.A_ts1" "x = \n" {} = [i] ∧ i.Rejected) ∧
    invocations emitting "p.A_ts1" "x = 2\n" rejecting = [] ∧
    ∃ m t, compile emitting "p.A_ts1" "x = 2\n" rejecting = .ok m t := by
  refine ⟨?_, ?_, ?_⟩
  · have hrejected : (invocations emitting "p.A_ts1" "x = \n" {}).map
        (fun i => i.outcome?.map (·.succeeded)) = [some false] := by decide +kernel
    obtain ⟨i, hi, houtcome⟩ := List.map_eq_singleton_iff.1 hrejected
    obtain ⟨o, ho, hsucceeded⟩ := Option.map_eq_some_iff.1 houtcome
    exact ⟨i, hi, o, Invocation.answer_of_outcome? ho, hsucceeded⟩
  · exact List.eq_nil_of_length_eq_zero (by decide +kernel)
  · have hrun : (compile emitting "p.A_ts1" "x = 2\n").run' rejecting = some 0 := by decide +kernel
    obtain ⟨t, ht⟩ := Action.exists_of_run hrun
    exact ⟨0, t, ht⟩

end UnitFoundry.Compiler
