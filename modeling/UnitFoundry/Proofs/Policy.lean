import UnitFoundry.Compiler
import UnitFoundry.Proofs.Lists
import UnitFoundry.Proofs.Operations
import UnitFoundry.Proofs.Options.Entries

/-!
# What changes make of a policy

A change sets what it gives, in both option sets alike, and leaves the rest. It cannot be made if it asks for a
target version that is none; then nothing is changed. So after any number of changes a policy holds what the last
of them has given.

* `Change.version?`, `Change.refused?` — what a change sets as the target version, or why it cannot be made;
* `Policy.retarget_eq`, `Policy.configure_eq` — what a change comes to, and what is wrong if it cannot be made;
* `Policy.Configured` — the policies that changes lead to;
* `Policy.IsPaired` — the two option sets differ in the lint category alone;
* `Policy.Reflects` — a policy holds what was last given, kept by each change;
* `Compiler.configure_eq_ok`, `Compiler.configure_eq_error` — a change that is made, and one that fails.
-/

namespace UnitFoundry

open Script Text

variable {p q : Policy} {c : Change} {f : Failure}

/-! ## One change -/

namespace TargetVersion

theorem text_of_ofString? {text : String} {v : TargetVersion} (h : ofString? text = some v) : v.text = text := by
  unfold ofString? at h
  split at h
  · cases h
    rfl
  · cases h

theorem text_ne_empty (v : TargetVersion) : v.text ≠ "" := by
  intro hempty
  have hvalid := v.valid
  rw [hempty] at hvalid
  exact absurd hvalid (by decide)

end TargetVersion

namespace Change

/-- The target version that a change sets. -/
def version? (c : Change) : Option TargetVersion := c.target?.bind TargetVersion.ofString?

/-- The text that keeps a change from being made: it is asked for as a target version, and is none. -/
def refused? (c : Change) : Option String :=
  c.target?.filter fun asked => (TargetVersion.ofString? asked).isNone

/-- The version in use is never set. -/
theorem version?_ne_current {c : Change} {v : TargetVersion} (h : c.version? = some v) :
    v.text ≠ currentVersion := by
  obtain ⟨asked, hasked, hversion⟩ := Option.bind_eq_some_iff.1 h
  obtain ⟨-, hasks⟩ := Option.filter_eq_some_iff.1 hasked
  rw [TargetVersion.text_of_ofString? hversion]
  rintro rfl
  simp at hasks

/-- A target version that is asked for by its text is set, unless it is the one in use. -/
theorem version?_of_target {c : Change} {version? : Option TargetVersion}
    (h : c.target = version?.map (·.text)) :
    c.version? = version?.filter fun v => decide (v.text ≠ currentVersion) := by
  rw [Change.version?, target?, h]
  cases version? with
  | none => rfl
  | some v =>
    by_cases hcurrent : v.text = currentVersion
    · simp [Option.filter, hcurrent]
    · simp [Option.filter, hcurrent, v.text_ne_empty, v.ofString?_text]

/-- A change that is refused sets no target version. -/
theorem version?_of_refused {c : Change} {asked : String} (h : c.refused? = some asked) :
    c.version? = none := by
  obtain ⟨hasked, hnone⟩ := Option.filter_eq_some_iff.1 h
  rw [version?, hasked, Option.bind_some]
  exact Option.isNone_iff_eq_none.1 hnone

end Change

/-- The failure of a change that asks for a target version that is none. -/
def versionFailure (asked : String) : Failure :=
  .invalid "CompileOptions"
    [⟨[.field "target_version"], .refused (targetVersionRefusal asked), .text asked⟩]

theorem Options.withTarget_text (o : Options) (asked : String) :
    (o.withTarget (.text asked)).orFail "CompileOptions" =
      match TargetVersion.ofString? asked with
      | some version => .ok { o with target := some version }
      | none => .error (versionFailure asked) := by
  rw [Options.withTarget_eq]
  simp only [orNull, asTargetVersion, asText, Checked.andThen]
  cases TargetVersion.ofString? asked with
  | some version => rfl
  | none => rfl

namespace Policy

/-- What a target version makes of a policy, if one is set. -/
def withVersion (p : Policy) : Option TargetVersion → Policy
  | none => p
  | some version =>
    { p with
      options := { p.options with target := some version }
      lintOptions := { p.lintOptions with target := some version } }

@[simp] theorem optimize_withVersion (p : Policy) (version : Option TargetVersion) :
    (p.withVersion version).options.optimize = p.options.optimize := by
  cases version <;> rfl

@[simp] theorem target_withVersion (p : Policy) (version : Option TargetVersion) :
    (p.withVersion version).options.target = version.or p.options.target := by
  cases version <;> rfl

@[simp] theorem warningsAsErrors_withVersion (p : Policy) (version : Option TargetVersion) :
    (p.withVersion version).options.warningsAsErrors = p.options.warningsAsErrors := by
  cases version <;> rfl

@[simp] theorem lintRecovery_withVersion (p : Policy) (version : Option TargetVersion) :
    (p.withVersion version).lintRecovery = p.lintRecovery := by
  cases version <;> rfl

theorem retarget_eq (p : Policy) (c : Change) :
    p.retarget c.target? =
      match c.refused? with
      | some asked => .error (versionFailure asked)
      | none => .ok (p.withVersion c.version?) := by
  unfold Change.refused? Change.version?
  cases c.target? with
  | none => rfl
  | some asked =>
    unfold Policy.retarget
    simp only [Options.withTarget_text, Option.bind_some]
    cases hversion : TargetVersion.ofString? asked with
    | some version => simp [Option.filter, hversion, withVersion, Bind.bind, Except.bind, Pure.pure, Except.pure]
    | none => simp [Option.filter, hversion, Bind.bind, Except.bind]

/-- The policy after a change that is made. -/
def changed (p : Policy) (c : Change) : Policy :=
  let p := p.withVersion c.version?
  { options := { p.options with warningsAsErrors := c.warningsAsErrors.getD p.options.warningsAsErrors }
    lintOptions := { p.lintOptions with
      warningsAsErrors := c.warningsAsErrors.getD p.lintOptions.warningsAsErrors }
    lintRecovery := c.lintRecovery.getD p.lintRecovery }

/-- **What a change comes to.** It is made as a whole, or it fails for the text that it asks for as a target
version. -/
theorem configure_eq (p : Policy) (c : Change) :
    p.configure c =
      match c.refused? with
      | some asked => .error (versionFailure asked)
      | none => .ok (p.changed c) := by
  unfold Policy.configure
  rw [retarget_eq]
  cases c.refused? with
  | some asked => rfl
  | none => rfl

theorem configure_eq_ok : p.configure c = .ok q ↔ c.refused? = none ∧ q = p.changed c := by
  rw [configure_eq]
  cases c.refused? with
  | some asked => simp
  | none => simp [eq_comm]

theorem configure_eq_error :
    p.configure c = .error f ↔ ∃ asked, c.refused? = some asked ∧ f = versionFailure asked := by
  rw [configure_eq]
  cases c.refused? with
  | some asked => simp [eq_comm]
  | none => simp

/-! ## The two option sets -/

/-- The policies that changes lead to, from the one that compilers start with. -/
inductive Configured : Policy → Prop where
  | initial : Configured {}
  | change {p q : Policy} (h : Configured p) (c : Change) (hc : p.configure c = .ok q) : Configured q

/-- The option sets of a policy differ in that the second lets lint warnings pass. -/
structure IsPaired (p : Policy) : Prop where
  strict : p.options.lint = []
  lenient : p.lintOptions.lint = [lintRecoverable]
  target : p.lintOptions.target = p.options.target
  optimize : p.lintOptions.optimize = p.options.optimize
  warningsAsErrors : p.lintOptions.warningsAsErrors = p.options.warningsAsErrors

/-- The second option set is the first one with the lint category. -/
theorem IsPaired.lintOptions_eq (h : p.IsPaired) : p.lintOptions = p.options.withLint [lintRecoverable] := by
  obtain ⟨strict, lenient, recovery⟩ := p
  obtain ⟨hstrict, hlenient, htarget, hoptimize, herrors⟩ := h
  obtain ⟨target, optimize, errors, lint⟩ := lenient
  simp only at hstrict hlenient htarget hoptimize herrors
  subst hlenient htarget hoptimize herrors
  simp [Options.withLint, hstrict, Options.keepFirst]

theorem IsPaired.withVersion (h : p.IsPaired) (version : Option TargetVersion) :
    (p.withVersion version).IsPaired := by
  cases version with
  | none => exact h
  | some version => exact ⟨h.strict, h.lenient, rfl, h.optimize, h.warningsAsErrors⟩

theorem IsPaired.changed (h : p.IsPaired) (c : Change) : (p.changed c).IsPaired := by
  have hversion := h.withVersion c.version?
  refine ⟨hversion.strict, hversion.lenient, hversion.target, hversion.optimize, ?_⟩
  show c.warningsAsErrors.getD _ = c.warningsAsErrors.getD _
  rw [hversion.warningsAsErrors]

/-- **Whatever is changed, the option sets differ in the lint category alone.** -/
theorem Configured.isPaired {p : Policy} (h : p.Configured) : p.IsPaired := by
  induction h with
  | initial => exact ⟨rfl, rfl, rfl, rfl, rfl⟩
  | change _ c hc ih =>
    obtain ⟨-, rfl⟩ := configure_eq_ok.1 hc
    exact ih.changed c

/-! ## What was last given -/

/-- A policy after a history of changes that were made. -/
structure Reflects (history : List Change) (p : Policy) : Prop where
  paired : p.IsPaired
  optimize : p.options.optimize = .inherited
  target : p.options.target = (history.filterMap Change.version?).getLast?
  warningsAsErrors :
    p.options.warningsAsErrors = ((history.filterMap Change.warningsAsErrors).getLast?).getD true
  lintRecovery : p.lintRecovery = ((history.filterMap Change.lintRecovery).getLast?).getD false

theorem reflects_nil : Reflects [] {} := ⟨⟨rfl, rfl, rfl, rfl, rfl⟩, rfl, rfl, rfl, rfl⟩

/-- Each change adds to the history. -/
theorem Reflects.changed {history : List Change} (h : Reflects history p) (c : Change) :
    Reflects (history ++ [c]) (p.changed c) := by
  refine ⟨h.paired.changed c, ?_, ?_, ?_, ?_⟩
  · simp [Policy.changed, h.optimize]
  · rw [getLast?_filterMap_concat, ← h.target]
    exact target_withVersion p c.version?
  · rw [getLast?_filterMap_concat]
    cases herrors : c.warningsAsErrors with
    | none => simp [Policy.changed, herrors, h.warningsAsErrors]
    | some b => simp [Policy.changed, herrors]
  · rw [getLast?_filterMap_concat]
    cases hrecovery : c.lintRecovery with
    | none => simp [Policy.changed, hrecovery, h.lintRecovery]
    | some b => simp [Policy.changed, hrecovery]

end Policy

namespace Compiler

variable {s t : Session}

/-- A change that is made. -/
theorem configure_ok (h : c.refused? = none) (s : Session) :
    configure c s = .ok ⟨⟩ { s with policy := s.policy.changed c } := by
  have hpolicy : s.policy.configure c = .ok (s.policy.changed c) := Policy.configure_eq_ok.2 ⟨h, rfl⟩
  rw [configure, Action.bind_ok (Action.get_apply s), hpolicy]
  rfl

/-- A change that fails leaves the session as it is. -/
theorem configure_error {asked : String} (h : c.refused? = some asked) (s : Session) :
    configure c s = .error (versionFailure asked) s := by
  have hpolicy : s.policy.configure c = .error (versionFailure asked) :=
    Policy.configure_eq_error.2 ⟨asked, h, rfl⟩
  rw [configure, Action.bind_ok (Action.get_apply s), hpolicy]
  rfl

/-- A change is made exactly if nothing keeps it from being made. -/
theorem configure_eq_ok {u : Unit} :
    configure c s = .ok u t ↔ c.refused? = none ∧ t = { s with policy := s.policy.changed c } := by
  cases hrefused : c.refused? with
  | some asked => simp [configure_error hrefused]
  | none => simp [configure_ok hrefused, eq_comm]

/-- A change that fails does so for its target version, and leaves the session as it is. -/
theorem configure_eq_error :
    configure c s = .error f t ↔ ∃ asked, c.refused? = some asked ∧ f = versionFailure asked ∧ t = s := by
  cases hrefused : c.refused? with
  | some asked => simp [configure_error hrefused, eq_comm]
  | none => simp [configure_ok hrefused]

end Compiler

end UnitFoundry
