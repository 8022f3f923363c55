import UnitFoundry.Proofs.Policy
import UnitFoundry.Proofs.Session.Keeping
import UnitFoundry.Setup

/-!
# The policy that a compiler is set up with

Before a compiler gets its policy its places are opened and its backend is found. None of this touches the policy, so
that the change which the setting up makes is the only one.

* `IsApart` — the parts of a session that are not touched either;
* `run_eq` — a setting up is a preparation and then a change;
* `policy_of_run`, `policy_of_ofSettings` — **the policy is what this change makes of the one before**.
-/

namespace UnitFoundry.Setup

variable {β : Type} {part : Session → β} {s t : Session} {b : Backend}

/-! ## Before the change -/

/-- A part of the session that has nothing to do with what a compiler is set up with, apart from its policy. -/
structure IsApart (part : Session → β) : Prop where
  log : ∀ s log, part { s with log } = part s
  resources : ∀ s resources, part { s with resources } = part s
  verbose : ∀ s verbose, part { s with verbose } = part s
  store : ∀ s disk sideStore, part { s with disk, sideStore } = part s

theorem isApart_policy : IsApart Session.policy :=
  ⟨fun _ _ => rfl, fun _ _ => rfl, fun _ _ => rfl, fun _ _ _ => rfl⟩

theorem keeping_openPlaces (h : IsApart part) (places : List Path) : (keeping part).Keeps (openPlaces places) := by
  refine keeping_get.bind fun s _ =>
    .bind (.forM fun _ _ => keeping_logged h.log ..) fun _ _ => ?_
  split
  · exact .throw trivial
  · exact keeping_modify fun s => h.resources s _

theorem keeping_choose (h : IsApart part) (choice : BackendChoice) : (keeping part).Keeps (choose choice) := by
  cases choice with
  | given b => exact .pure b
  | named spec =>
    refine (keeping_result _).bind fun b _ => ?_
    dsimp only
    split
    · exact (keeping_logged h.log ..).bind fun _ _ => .pure b
    · exact .pure b

/-- What a setting up does before its change is made. -/
def prepare (setup : Setup) : Action Backend := do
  if setup.placesFirst then openPlaces setup.places
  let b ← choose setup.backend
  if !setup.placesFirst then openPlaces setup.places
  modify fun s => { s with verbose := setup.verbose }
  pure b

theorem run_eq (setup : Setup) :
    setup.run = setup.prepare >>= fun b => Compiler.configure setup.change >>= fun _ => pure b := by
  unfold run prepare
  cases setup.placesFirst <;> simp

theorem keeping_prepare (h : IsApart part) (setup : Setup) : (keeping part).Keeps setup.prepare := by
  have hplaces := keeping_openPlaces h setup.places
  have hchoice := keeping_choose h setup.backend
  have hverbose : (keeping part).Keeps (modify fun s => { s with verbose := setup.verbose }) :=
    keeping_modify fun s => h.verbose s _
  unfold prepare
  cases setup.placesFirst with
  | true => exact hplaces.bind fun _ _ => hchoice.bind fun b _ => hverbose.bind fun _ _ => .pure b
  | false => exact hchoice.bind fun b _ => hplaces.bind fun _ _ => hverbose.bind fun _ _ => .pure b

/-! ## The change -/

/-- The policy that a compiler is set up with is what its first change makes of the one before. -/
theorem policy_of_run {setup : Setup} (h : setup.run s = .ok b t) :
    setup.change.refused? = none ∧ t.policy = s.policy.changed setup.change := by
  rw [run_eq] at h
  obtain ⟨b, u, hprepare, h⟩ := Action.bind_eq_ok.1 h
  have hpolicy : u.policy = s.policy := eq_of_keeping (keeping_prepare isApart_policy setup) hprepare
  obtain ⟨_, v, hconfigure, hdone⟩ := Action.bind_eq_ok.1 h
  obtain ⟨hmade, rfl⟩ := Compiler.configure_eq_ok.1 hconfigure
  cases hdone
  exact ⟨hmade, congrArg (Policy.changed · setup.change) hpolicy⟩

/-- The change that settings ask for. -/
def settingsChange (settings : Settings) : Change :=
  { target := settings.target.map (·.text), lintRecovery := some settings.lintRecovery
    warningsAsErrors := some settings.warningsAsErrors }

theorem keeping_openStore (h : IsApart part) (directory : Path) : (keeping part).Keeps (openStore directory) := by
  refine keeping_iff.2 fun s => ?_
  rw [openStore, Action.bind_ok (Action.get_apply s)]
  obtain ⟨disk, outcome⟩ := DurableStore.establish s.disk directory
  cases outcome with
  | ok store => exact h.store s disk (.durable store)
  | error why => exact h.store s disk s.sideStore

/-- Setting a compiler up from settings keeps what has nothing to do with it. -/
theorem keeping_ofSettings (h : IsApart part) (hpolicy : ∀ s policy, part { s with policy } = part s)
    (settings : Settings) (choice : Option BackendChoice) : (keeping part).Keeps (ofSettings settings choice) := by
  have hrun (setup : Setup) : (keeping part).Keeps setup.run := by
    rw [run_eq]
    exact (keeping_prepare h setup).bind fun b _ => (keeping_configure hpolicy _).bind fun _ _ => .pure b
  unfold ofSettings
  cases settings.compileDirectory with
  | none => exact hrun _
  | some directory => exact (keeping_openStore h directory).bind fun _ _ => hrun _

/-- A compiler that is set up from settings gets the policy that they ask for. -/
theorem policy_of_ofSettings {settings : Settings} {choice : Option BackendChoice}
    (h : ofSettings settings choice s = .ok b t) :
    (settingsChange settings).refused? = none ∧ t.policy = s.policy.changed (settingsChange settings) := by
  unfold ofSettings at h
  cases hdirectory : settings.compileDirectory with
  | none =>
    rw [hdirectory] at h
    exact policy_of_run h
  | some directory =>
    rw [hdirectory] at h
    obtain ⟨_, u, hopen, hrun⟩ := Action.bind_eq_ok.1 h
    have hpolicy : u.policy = s.policy := eq_of_keeping (keeping_openStore isApart_policy directory) hopen
    rw [← hpolicy]
    exact policy_of_run hrun

end UnitFoundry.Setup
