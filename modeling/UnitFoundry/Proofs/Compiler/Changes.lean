import UnitFoundry.Proofs.Session.Reachable
import UnitFoundry.Proofs.Setup

/-!
# A history of changes

A compiler is set up with a first change, and then others are asked for, of which some cannot be made. Those that
were made are its history: what each of them gives holds until another gives something else. A change that cannot
be made is no part of it.

* `Session.madeChanges` — which of the changes that are asked for are made;
* `reflects_afterChanges` — after a run of changes the policy holds what was last given;
* `changes_reflected` — **from the setting up on, the two option sets go together and hold what was last given**.
-/

namespace UnitFoundry

open Script Text

variable {s t : Session} {c : Change}

/-! ## One change after another -/

/-- The changes that are made, of those that are asked for one after the other. -/
def Session.madeChanges (s : Session) : List Change → List Change
  | [] => []
  | c :: rest =>
    match Compiler.configure c s with
    | .ok _ t => c :: t.madeChanges rest
    | .error _ t => t.madeChanges rest

/-- What changes leave behind, whether they are made or not. -/
def Session.afterChanges (s : Session) (calls : List Change) : Session :=
  s.performed (calls.map .configure)

/-- The first of several changes is made, or it is as if it had not been asked for. -/
theorem afterChanges_cons (s : Session) (c : Change) (rest : List Change) :
    c.refused? = none ∧
        s.madeChanges (c :: rest) = c :: Session.madeChanges { s with policy := s.policy.changed c } rest ∧
        s.afterChanges (c :: rest) = Session.afterChanges { s with policy := s.policy.changed c } rest ∨
      c.version? = none ∧ s.madeChanges (c :: rest) = s.madeChanges rest ∧
        s.afterChanges (c :: rest) = s.afterChanges rest := by
  have hafter : s.afterChanges (c :: rest) = (s.after (Compiler.configure c)).afterChanges rest := rfl
  rw [hafter, Session.after, Session.madeChanges]
  cases hrefused : c.refused? with
  | none =>
    rw [Compiler.configure_ok hrefused]
    exact .inl ⟨rfl, rfl, rfl⟩
  | some asked =>
    rw [Compiler.configure_error hrefused]
    exact .inr ⟨Change.version?_of_refused hrefused, rfl, rfl⟩

/-- After a run of changes the policy holds what was last given. -/
theorem reflects_afterChanges {history : List Change} (calls : List Change) (h : s.policy.Reflects history) :
    (s.afterChanges calls).policy.Reflects (history ++ s.madeChanges calls) := by
  induction calls generalizing s history with
  | nil =>
    rw [Session.madeChanges, List.append_nil]
    exact h
  | cons c rest ih =>
    rcases afterChanges_cons s c rest with ⟨-, hmade, hafter⟩ | ⟨-, hmade, hafter⟩
    · rw [hmade, hafter, List.append_cons]
      exact ih (h.changed c)
    · rw [hmade, hafter]
      exact ih h

/-- Changes that are not made set no target version. -/
theorem filterMap_made (calls : List Change) (s : Session) :
    (s.madeChanges calls).filterMap Change.version? = calls.filterMap Change.version? := by
  induction calls generalizing s with
  | nil => rfl
  | cons c rest ih =>
    rcases afterChanges_cons s c rest with ⟨-, hmade, -⟩ | ⟨hversion, hmade, -⟩
    · rw [hmade, List.filterMap_cons, List.filterMap_cons, ih]
    · rw [hmade, List.filterMap_cons, hversion, ih]

/-! ## From the setting up on -/

/-- **From the setting up on, the two option sets go together and hold what was last given.** The lint options are
the options with the lint category. The flags are those of the last change that was made and gave them, and the
target version is the last one that was asked for and is one. A change that fails leaves everything as it was, and
it fails for its target version only. -/
theorem changes_reflected {setup : Setup} {b : Backend} (hs : s.policy = {}) (hsetup : setup.run s = .ok b t)
    (calls : List Change) :
    let u := t.afterChanges calls
    u.policy.Reflects (setup.change :: t.madeChanges calls) ∧
      u.policy.lintOptions = u.policy.options.withLint [lintRecoverable] ∧
      u.policy.options.target = ((setup.change :: calls).filterMap Change.version?).getLast? ∧
      (∀ c f v, Compiler.configure c u = .error f v → v = u) ∧
      ∀ c, (∃ v, Compiler.configure c u = .ok ⟨⟩ v) ↔ c.refused? = none := by
  intro u
  obtain ⟨-, hpolicy⟩ := Setup.policy_of_run hsetup
  have hstart : t.policy.Reflects [setup.change] := by
    rw [hpolicy, hs]
    exact Policy.reflects_nil.changed setup.change
  have hreflects : u.policy.Reflects (setup.change :: t.madeChanges calls) := reflects_afterChanges calls hstart
  refine ⟨hreflects, hreflects.paired.lintOptions_eq, ?_, fun c f v hv => ?_, fun c => ?_⟩
  · rw [hreflects.target, List.filterMap_cons, List.filterMap_cons, filterMap_made]
  · obtain ⟨_, -, -, hsame⟩ := Compiler.configure_eq_error.1 hv
    exact hsame
  · simp [Compiler.configure_eq_ok]

/-- A text that is no target version gives nothing, and neither does the version in use. -/
theorem changes_reflected_refused :
    let setup : Setup := { backend := .given .standard, change := { target := some "3.9" } }
    let calls : List Change := [{ target := some "3.x", lintRecovery := some true },
      { target := some "3.11", warningsAsErrors := some false }]
    ∃ t, setup.run {} = .ok .standard t ∧ t.madeChanges calls = calls.drop 1 ∧
      (t.afterChanges calls).policy.Reflects (setup.change :: t.madeChanges calls) ∧
      (t.afterChanges calls).policy.options.target.map (·.text) = some "3.9" := by
  intro setup calls
  have hsetup : setup.run {} = .ok .standard { policy := ({} : Policy).changed setup.change } := rfl
  obtain ⟨hreflects, -, htarget, -⟩ := changes_reflected rfl hsetup calls
  refine ⟨_, hsetup, by decide +kernel, hreflects, ?_⟩
  rw [htarget]
  decide +kernel

end UnitFoundry
