import UnitFoundry.Backend.Scenario
import UnitFoundry.Proofs.Compiler.Invocations

/-!
# Successes without an artifact

A backend may report success without having published anything under the name it was asked for. The
compilation then asks the registry what is active for the unit, and takes that: it fails only if
nothing is active. A slot of the registry that is filled stays filled during a compilation, so that a
unit with an earlier generation never fails in this way. The module of the earlier generation is
handed out instead.

* `filling` — to leave a slot of the registry filled, as a contract on compilations;
* `unpublished_iff` — **when a success without an artifact is an error**, and what is loaded otherwise;
* `unpublished_served` — a module that an earlier generation left behind is handed out for a new name.
-/

namespace UnitFoundry.Compiler

open Script Text

/-! ## Slots that stay filled -/

/-- To leave the slot of a canonical name filled. -/
def holding (canonical : String) : Discipline where
  inv s := (s.registry.lookup? canonical).isSome
  rel _ _ := True
  fails _ := True
  refl _ := trivial
  trans _ _ := trivial
  raised _ := trivial
  thrown _ _ := trivial
  own := by
    rintro s _ ⟨⟩ h
    all_goals exact ⟨h, trivial⟩

theorem holding_of_registry {canonical : String} {s t : Session} (h : t.registry = s.registry)
    (hs : (holding canonical).inv s) : (holding canonical).inv t := by
  show (t.registry.lookup? canonical).isSome
  rw [h]
  exact hs

theorem holding_loads (canonical : String) : (holding canonical).Loads :=
  .of_registry (fun _ _ hr hs => ⟨holding_of_registry hr hs, trivial⟩) (fun _ _ => trivial)
    fun _ => trivial

/-- A slot that is filled stays filled during a compilation. -/
def filling (canonical : String) : Compiling where
  toDiscipline := holding canonical
  aside h hs := ⟨holding_of_registry h.registry hs, trivial⟩
  created _ _ _ hs := ⟨hs, trivial⟩
  opened _ _ _ _ hs := ⟨hs, trivial⟩
  written _ _ _ _ _ _ hs := ⟨hs, trivial⟩
  sealed _ _ _ _ _ hs := ⟨hs, trivial⟩
  published _ _ _ _ _ hs := ⟨Registry.isSome_lookup?_replace hs, trivial⟩
  lenient _ := trivial
  materializes := (holding_loads canonical).materializes

variable {backend : Backend} {name source : String} {s t : Session} {i : Invocation} {o : Outcome}

/-! ## Successes without an artifact -/

/-- **When a success without an artifact is an error.** The backend has reported success without having
published anything under the name. Then the compilation fails for this reason exactly if nothing at all
is active for the unit; else it ends as a load of the active context does. If a generation was active
before the compilation, one is active now. -/
theorem unpublished_iff (hs : s.Reachable) (hi : i ∈ invocations backend name source s)
    (ho : i.answer = .ok o) (hsucceeded : o.succeeded = true)
    (hunpublished : lookupEntry name o.published = none) :
    ((∃ t, compile backend name source s = .error (.error (.unregistered name)) t) ↔
      i.after.registry.lookup? (UnitName.canonical name) = none) ∧
    (∀ id, i.after.registry.lookup? (UnitName.canonical name) = some id →
      ∃ log, compile backend name source s = Loader.load id { i.after with log }) ∧
    ((s.registry.lookup? (UnitName.canonical name)).isSome →
      (i.after.registry.lookup? (UnitName.canonical name)).isSome) := by
  have hcompile : compile backend name source s = loadPublished name o.published i.after := by
    rw [compile_of_succeeded hs.sound hi ho hsucceeded, settle, if_pos hsucceeded]
  have hsound : i.after.Sound := (inv_of_mem Session.soundCompiling hs.sound hi).2
  have hload (id : ContextId) (hid : i.after.registry.lookup? (UnitName.canonical name) = some id) :
      ∃ log, compile backend name source s = Loader.load id { i.after with log } := by
    obtain ⟨log, hload⟩ := loadPublished_of_active hsound o.published hid
    rw [hunpublished] at hload
    exact ⟨log, hcompile.trans hload⟩
  refine ⟨⟨?_, fun hnone => ⟨i.after, hcompile.trans (loadPublished_of_empty hnone)⟩⟩, hload,
    fun hbefore => (inv_of_mem (filling (UnitName.canonical name)) hbefore hi).2⟩
  rintro ⟨t, herror⟩
  cases hid : i.after.registry.lookup? (UnitName.canonical name) with
  | none => rfl
  | some id =>
    -- a load never fails for this reason
    obtain ⟨log, hcompile⟩ := hload id hid
    cases Loader.load_fails (hcompile.symm.trans herror)

/-- A backend that reports success and does nothing. -/
def silent : Backend :=
  { className := "Backend", label := "silent", compile := fun _ _ _ => .done true }

theorem silent_unpublished : Session.Reachable {} ∧
    ∃ t, compile silent "p.A" "x = 1\n" {} = .error (.error (.unregistered "p.A")) t := by
  have hreachable : Session.Reachable {} := .fresh Session.isFresh_empty
  obtain ⟨i, hi, ho, hregistry⟩ : ∃ i, invocation? silent "p.A" "x = 1\n" {} {} = some i ∧
      i.answer = .ok ⟨true, [], []⟩ ∧ i.after.registry = {} := ⟨_, rfl, rfl, rfl⟩
  have hmem : i ∈ invocations silent "p.A" "x = 1\n" {} :=
    List.mem_append_left _ (Option.mem_toList.2 hi)
  refine ⟨hreachable, (unpublished_iff hreachable hmem ho rfl rfl).1.2 ?_⟩
  rw [hregistry]
  rfl

/-- A session in which a generation of a unit is published. -/
def earlier : Session :=
  Session.performed {}
    [.openOutput none .classOutput "p.A_ts1" .artifact none,
      .write 0 (Scenario.artifactOf "p.A_ts1" "x = 1\n"), .close 0]

/-- A compilation of a new generation hands out the module of the generation before it: the backend has
reported success without publishing anything. -/
theorem unpublished_served : earlier.Reachable ∧
    (earlier.contexts[0]?.map (·.qualified)) = some "p.A_ts1" ∧
    (∃ i ∈ invocations silent "p.A_ts2" "x = 2\n" earlier,
      ∃ o, i.answer = .ok o ∧ o.succeeded = true ∧ lookupEntry "p.A_ts2" o.published = none) ∧
    ∃ m t, compile silent "p.A_ts2" "x = 2\n" earlier = .ok m t ∧
      (t.modules[m]?.map (·.owner)) = some 0 := by
  refine ⟨(Session.Reachable.fresh Session.isFresh_empty).performed _, by decide +kernel, ?_, ?_⟩
  · have hsilent : (invocation? silent "p.A_ts2" "x = 2\n" earlier.policy.options earlier).any (fun i =>
        i.outcome?.any fun o => o.succeeded && (lookupEntry "p.A_ts2" o.published).isNone) = true := by
      decide +kernel
    obtain ⟨i, hi, houtcome⟩ := (Option.any_eq_true ..).1 hsilent
    obtain ⟨o, ho, h⟩ := (Option.any_eq_true ..).1 houtcome
    obtain ⟨hsucceeded, hnone⟩ := Bool.and_eq_true_iff.1 h
    exact ⟨i, List.mem_append_left _ (Option.mem_toList.2 hi), o, Invocation.answer_of_outcome? ho,
      hsucceeded, Option.isNone_iff_eq_none.1 hnone⟩
  · have hrun : (do
        let m ← compile silent "p.A_ts2" "x = 2\n"
        let s ← get
        pure (m, s.modules[m]?.map (·.owner)) : Action _).run' earlier = some (0, some 0) := by
      decide +kernel
    obtain ⟨t, ht⟩ := Action.exists_of_run hrun
    obtain ⟨m, u, hm, ht⟩ := Action.bind_eq_ok.1 ht
    obtain ⟨heq, -⟩ := EStateM.Result.ok.inj ht
    exact ⟨m, u, hm, (Prod.mk.inj heq).1 ▸ (Prod.mk.inj heq).2⟩

end UnitFoundry.Compiler
