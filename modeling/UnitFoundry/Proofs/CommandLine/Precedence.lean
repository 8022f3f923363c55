import UnitFoundry.CommandLine.Report
import UnitFoundry.Proofs.Compiler.Invocations
import UnitFoundry.Proofs.Settings
import UnitFoundry.Proofs.Setup

/-!
# Flags before the environment before the file

The compile command sets a compiler up from settings and then makes the change that its flags ask for. So a flag comes
before what the environment says, and this before what the settings file says. A target version that is empty or the
one in use is not set by a change: as a flag it leaves the target version of the settings in force, and in the
settings it means that no older grammar is asked for.

* `compileStart`, `compileUnit_eq` — what the command does before it compiles;
* `policy_of_compileStart` — the policy that the compilation begins with;
* `InForce` — a policy that is made of flags, the environment and a file, the first of which decides;
* `settings_in_force` — **what is in force when the backend runs**;
* `current_version_ignored` — a flag for the version in use does not take the place of the settings.
-/

namespace UnitFoundry.CommandLine

open Script Text

variable {environment : List (String × String)} {source name text : String} {r : CompileRequest}
  {s t : Session} {backend : Backend} {entries : List (String × Datum)}

/-! ## Before the compilation -/

/-- What the compile command does before it compiles: a backend and a source are found, and the policy is set. -/
def compileStart (environment : List (String × String)) (source : String) (r : CompileRequest) :
    Action (Backend × String) := do
  let disk := (← get).disk
  let settings ← ofExcept (Settings.load disk (r.config.map Path.ofString) environment)
  let backend ← Setup.ofSettings settings none
  Compiler.configure r.change
  Compiler.logResourcePath
  let text ← ofExcept (disk.readText (Path.ofString source))
  pure (backend, text)

theorem compileUnit_eq (environment : List (String × String)) (source name : String) (r : CompileRequest) :
    compileUnit environment source name r =
      compileStart environment source r >>= fun (backend, text) => Compiler.compile backend name text := by
  simp [compileUnit, compileStart]

/-- The policy that the compilation begins with: that of the settings, changed by the flags. -/
theorem policy_of_compileStart (h : compileStart environment source r s = .ok (backend, text) t) :
    ∃ settings, Settings.load s.disk (r.config.map Path.ofString) environment = .ok settings ∧
      r.change.refused? = none ∧
      t.policy = (s.policy.changed (Setup.settingsChange settings)).changed r.change := by
  obtain ⟨settings, u, hsettings, hafter⟩ := Action.bind_eq_ok.1 ((Action.bind_ok (Action.get_apply s)).symm.trans h)
  obtain ⟨hload, rfl⟩ := Action.ofExcept_eq_ok.1 hsettings
  obtain ⟨b, v, hsetup, hafter⟩ := Action.bind_eq_ok.1 hafter
  obtain ⟨-, hpolicy⟩ := Setup.policy_of_ofSettings hsetup
  obtain ⟨_, w, hconfigure, hafter⟩ := Action.bind_eq_ok.1 hafter
  obtain ⟨_, x, hlog, hafter⟩ := Action.bind_eq_ok.1 hafter
  obtain ⟨read, y, hread, hdone⟩ := Action.bind_eq_ok.1 hafter
  have hlogged : t.policy = w.policy := by
    obtain ⟨-, hsame⟩ := Action.ofExcept_eq_ok.1 hread
    cases hdone
    cases hlog
    rw [hsame]
  obtain ⟨hmade, rfl⟩ := Compiler.configure_eq_ok.1 hconfigure
  exact ⟨settings, hload, hmade, hlogged.trans (congrArg (Policy.changed · r.change) hpolicy)⟩

/-! ## What decides -/

/-- A policy that is made of flags, the environment and the entries of a file, of which the first that gives a
setting decides. The flag for the target version is given apart, since not every one counts. -/
structure InForce (flag : Option TargetVersion) (c : Change) (environment : List (String × String))
    (entries : List (String × Datum)) (p : Policy) : Prop where
  /-- Both option sets have the target version that is given first, and none if this is the version in use. -/
  target : ∃ version,
    FirstGiven (orNull Settings.asTarget) none (flag.map some)
      ((Settings.said? environment "TARGET_VERSION").map .text) (lookupEntry "target_version" entries) version ∧
    p.options.target = version.filter (fun v => decide (v.text ≠ currentVersion)) ∧
    p.lintOptions.target = p.options.target
  lintRecovery : FirstGiven asFlag false c.lintRecovery
    ((Settings.said? environment "LINT_RECOVERY").map .text) (lookupEntry "lint_recovery" entries) p.lintRecovery
  /-- Both option sets treat warnings alike. -/
  warningsAsErrors :
    FirstGiven asFlag true c.warningsAsErrors
      ((Settings.said? environment "WARNINGS_AS_ERRORS").map .text) (lookupEntry "warnings_as_errors" entries)
      p.options.warningsAsErrors ∧
    p.lintOptions.warningsAsErrors = p.options.warningsAsErrors

/-- The settings that a compiler is set up from, and then the flags. -/
theorem inForce_of_load {disk : Disk} {path : Option Path} {settings : Settings} {c : Change} {p : Policy}
    (hload : Settings.load disk path environment = .ok settings)
    (hp : p = (({} : Policy).changed (Setup.settingsChange settings)).changed c) :
    ∃ entries, Settings.entriesIn disk path = .ok entries ∧ InForce c.version? c environment entries p := by
  obtain ⟨entries, hentries, htarget, hrecovery, herrors⟩ := Settings.given_of_load hload
  have hreflects : p.Reflects ([Setup.settingsChange settings] ++ [c]) := by
    rw [hp]
    exact (Policy.reflects_nil.changed _).changed c
  refine ⟨entries, hentries, ?_, ?_, ?_, hreflects.paired.warningsAsErrors⟩
  · refine ⟨_, htarget.override (c.version?.map some), ?_, hreflects.paired.target⟩
    have hversion : (Setup.settingsChange settings).version? =
        settings.target.filter fun v => decide (v.text ≠ currentVersion) := Change.version?_of_target rfl
    rw [hreflects.target, getLast?_filterMap_concat, getLast?_filterMap_singleton, hversion]
    cases hflag : c.version? with
    | none => rfl
    | some v => simp [Option.filter, Change.version?_ne_current hflag]
  · have hgiven := hrecovery.override c.lintRecovery
    rw [hreflects.lintRecovery, getLast?_filterMap_concat, getLast?_filterMap_singleton]
    cases hflag : c.lintRecovery with
    | none => rwa [hflag] at hgiven
    | some b => rwa [hflag] at hgiven
  · have hgiven := herrors.override c.warningsAsErrors
    rw [hreflects.warningsAsErrors, getLast?_filterMap_concat, getLast?_filterMap_singleton]
    cases hflag : c.warningsAsErrors with
    | none => rwa [hflag] at hgiven
    | some b => rwa [hflag] at hgiven

/-! ## What is in force -/

/-- **What is in force when the backend runs.** The flags, the environment and the file make the policy, and the
backend is invoked under its option sets. A flag for the target version counts if it is not empty and not the version
in use. -/
theorem settings_in_force (hs : s.policy = {})
    (h : compileStart environment source r s = .ok (backend, text) t) :
    r.change.refused? = none ∧
      (∃ entries, Settings.entriesIn s.disk (r.config.map Path.ofString) = .ok entries ∧
        InForce r.change.version? r.change environment entries t.policy) ∧
      ∀ name, compileUnit environment source name r s = Compiler.compile backend name text t ∧
        ∀ i ∈ Compiler.invocations backend name text t,
          i.options = t.policy.options ∨ i.options = t.policy.lintOptions := by
  obtain ⟨settings, hload, hmade, hpolicy⟩ := policy_of_compileStart h
  rw [hs] at hpolicy
  refine ⟨hmade, inForce_of_load hload hpolicy, fun name => ⟨?_, fun i hi => Compiler.options_of_mem hi⟩⟩
  rw [compileUnit_eq, Action.bind_ok h]

/-- A session with a source and a settings file. -/
def furnishedDesk : Session where
  disk := { nodes := [(["g.py"], .file []), (["s.yaml"], .file (encodeUtf8 "lint_recovery: true"))] }

/-- A variable that gives a target version. -/
def olderGrammar : List (String × String) := [("LIVECOMPILE_TARGET_VERSION", "3.9")]

/-- The settings that a policy comes from, as they are written. -/
def written (p : Policy) : Option String × Bool × Bool :=
  (p.options.target.map (·.text), p.lintRecovery, p.options.warningsAsErrors)

/-- What is in force is read off the session that the compilation begins with. -/
theorem exists_of_compileStart (read : Option String × Bool × Bool)
    (h : ((do
      let _ ← compileStart environment source r
      pure (written (← get).policy)) : Action (Option String × Bool × Bool)).run' s = some read) :
    ∃ backend text t, compileStart environment source r s = .ok (backend, text) t ∧ written t.policy = read := by
  obtain ⟨u, hu⟩ := Action.exists_of_run h
  obtain ⟨⟨backend, text⟩, t, ht, hread⟩ := Action.bind_eq_ok.1 hu
  refine ⟨backend, text, t, ht, ?_⟩
  cases hread
  rfl

/-- The target version comes from the environment, lint recovery from the file, and the third setting from a flag. -/
theorem settings_in_force_each :
    let r : CompileRequest := { config := some "s.yaml", change := { warningsAsErrors := some false } }
    ∃ backend text t, furnishedDesk.policy = {} ∧
      compileStart olderGrammar "g.py" r furnishedDesk = .ok (backend, text) t ∧
      (∃ entries, Settings.entriesIn furnishedDesk.disk (some (Path.ofString "s.yaml")) = .ok entries ∧
        InForce none r.change olderGrammar entries t.policy) ∧
      written t.policy = (some "3.9", true, false) := by
  intro r
  obtain ⟨backend, text, t, ht, hread⟩ : ∃ backend text t,
      compileStart olderGrammar "g.py" r furnishedDesk = .ok (backend, text) t ∧ _ :=
    exists_of_compileStart (some "3.9", true, false) (by decide +kernel)
  exact ⟨backend, text, t, rfl, ht, (settings_in_force rfl ht).2.1, hread⟩

/-- A flag for the version in use does not take the place of the settings: what the environment gives stays in
force, where the flag as the first that is given would ask for no older grammar. -/
theorem current_version_ignored :
    let c : Change := { target := some currentVersion }
    ∃ backend text t, furnishedDesk.policy = {} ∧
      compileStart olderGrammar "g.py" { change := c } furnishedDesk = .ok (backend, text) t ∧
      written t.policy = (some "3.9", false, true) ∧
      ∀ entries, ¬ InForce (c.target.bind TargetVersion.ofString?) c olderGrammar entries t.policy := by
  intro c
  obtain ⟨backend, text, t, ht, hread⟩ : ∃ backend text t,
      compileStart olderGrammar "g.py" { change := c } furnishedDesk = .ok (backend, text) t ∧ _ :=
    exists_of_compileStart (some "3.9", false, true) (by decide +kernel)
  refine ⟨backend, text, t, rfl, ht, hread, fun entries hforce => ?_⟩
  obtain ⟨version, hgiven, hversion, -⟩ := hforce.target
  have htarget : t.policy.options.target.map (·.text) = some "3.9" := congrArg (·.1) hread
  have hnone : t.policy.options.target = none := by
    rw [hversion]
    obtain ⟨v, hv, hcurrent⟩ : ∃ v, TargetVersion.ofString? currentVersion = some v ∧ v.text = currentVersion :=
      ⟨_, rfl, rfl⟩
    rw [Option.bind_some, hv] at hgiven
    cases hgiven
    simp [Option.filter, hcurrent]
  rw [hnone] at htarget
  cases htarget

end UnitFoundry.CommandLine
