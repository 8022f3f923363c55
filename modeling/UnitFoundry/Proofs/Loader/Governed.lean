import UnitFoundry.Loader
import UnitFoundry.Proofs.Script.Statements

/-!
# Nested loads and calls keep to a discipline

Bodies run inside bodies: a body imports a unit, whose body calls a function of a third one. What one
level does is made of the steps of scripts and of the loads and calls of the levels below. So if the
making of one module keeps to a discipline whenever the levels below do, all loads and calls do,
however deep they are nested.

* `materialize_of_module`, `load_of_module` — a context that holds a module hands it out;
* `Discipline.Materializes` — the making of a module keeps to a discipline if the levels below do;
* `Discipline.Materializes.governs` — **then everything that starts bodies does**;
* `keeps_load`, `keeps_loadUnit`, `keeps_invoke` — in particular the operations from outside.
-/

namespace UnitFoundry

open Script Text

/-! ## Contexts that hold a module -/

namespace Loader

variable {s : Session} {id : ContextId} {c : Context} {m : ModuleId}

theorem materialize_of_module (engine : Engine) (hc : s.contexts[id]? = some c)
    (hm : c.module? = some m) : materialize engine id s = .ok m s := by
  rw [materialize, Action.bind_ok (Action.context_some hc), hm]
  rfl

/-- A load of a context that holds a module hands it out and does nothing else. -/
theorem load_of_module (hc : s.contexts[id]? = some c) (hm : c.module? = some m) :
    load id s = .ok m s := by
  have hattempt : Action.attempt (engine.load id) s = .ok (.ok m) s :=
    Action.attempt_ok (materialize_of_module _ hc hm)
  rw [load, withWording, Action.bind_ok hattempt]
  rfl

end Loader

namespace Script.Discipline

open Loader

variable {d : Discipline} {α : Type} {engine : Engine}

/-! ## Bodies -/

theorem keeps_runBody (h : d.Governs engine) {m : ModuleId} (hm : d.mayBind m) (code : Code) :
    d.Keeps (runBody engine m code) := by
  unfold runBody
  split
  · exact keeps_exception _ _
  · have hfits : d.Fits { home := m } := ⟨by simp, fun _ => hm⟩
    have hrun (body : List Statement) :
        d.Keeps (Run.start { home := m } (executeAll engine body)) :=
      keeps_start hfits (keeps_executeAll h body)
    grind

/-! ## Nesting -/

/-- The making of a module keeps to a discipline if the loads and calls inside it do. -/
def Materializes (d : Discipline) : Prop :=
  ∀ engine, d.Governs engine → ∀ id, d.Keeps (materialize engine id)

theorem governs_callEngine {load : ContextId → Action ModuleId} (h : ∀ id, d.Keeps (load id))
    (depth : Nat) : d.Governs (callEngine load depth) := by
  induction depth with
  | zero => exact ⟨h, fun _ _ => .throw (fails_tooDeep _)⟩
  | succ depth ih => exact ⟨h, keeps_call ih⟩

theorem Materializes.keeps_loaderWithin (hm : d.Materializes) (depth : Nat) (id : ContextId) :
    d.Keeps (loaderWithin depth id) := by
  induction depth generalizing id with
  | zero => exact .throw (fails_tooDeep _)
  | succ depth ih => exact hm _ (governs_callEngine ih callLimit) id

/-- As many levels as a load from outside can need. -/
theorem Materializes.keeps_outside (hm : d.Materializes) (id : ContextId) :
    d.Keeps fun s => loaderWithin (s.contexts.length + wordingLimit + 1) id s := by
  have hload : d.Keeps (get >>= fun s => loaderWithin (s.contexts.length + wordingLimit + 1) id : Action ModuleId) :=
    keeps_seeing (fun s => hm.keeps_loaderWithin _ id) fun _ _ h => by rw [h.contexts]
  exact hload

/-- **What one level keeps to, all nested levels keep to.** -/
theorem Materializes.governs (hm : d.Materializes) : d.Governs Loader.engine :=
  governs_callEngine hm.keeps_outside callLimit

/-! ## Use from outside -/

/-- The wording of a failure is a failure that is allowed if the failure itself is. -/
theorem fails_of_gives_worded {f g : Failure} (hf : d.fails f)
    (h : d.Gives (worded engine f) g) : d.fails g := by
  obtain ⟨s, t, -, h⟩ := h
  unfold worded at h
  split at h
  · obtain ⟨message, u, -, h⟩ := Action.bind_eq_ok.1 h
    obtain ⟨o, v, -, h⟩ := Action.bind_eq_ok.1 h
    split at h
    all_goals
      cases h
      exact d.raised _
  · cases h
    exact hf

theorem Materializes.keeps_withWording (hm : d.Materializes) {act : Action α} (h : d.Keeps act) :
    d.Keeps (withWording act) := by
  refine (keeps_attempt h).bind fun result hresult => ?_
  cases result with
  | ok x => exact .pure x
  | error f =>
    have hf := fails_of_gives_attempt hresult h
    exact (keeps_worded hm.governs f).bind fun g hg => .throw (fails_of_gives_worded hf hg)

theorem Materializes.keeps_load (hm : d.Materializes) (id : ContextId) :
    d.Keeps (Loader.load id) :=
  hm.keeps_withWording (hm.governs.load id)

theorem Materializes.keeps_loadUnit (hm : d.Materializes) (id : ContextId) (name : String) :
    d.Keeps (Loader.loadUnit id name) :=
  hm.keeps_withWording (Discipline.keeps_loadUnit hm.governs.load id name)

theorem Materializes.keeps_walk (hm : d.Materializes) (value : Value) (path : List String) :
    d.Keeps (walk value path) := by
  induction path generalizing value with
  | nil => exact .pure value
  | cons part rest ih =>
    refine (keeps_attributeOf hm.governs value part).bind fun found _ => ?_
    refine (keeps_isOfType hm.governs found _).bind fun isType _ => ?_
    cases isType with
    | true => exact (hm.governs.call found []).bind fun next _ => ih next
    | false => exact ih found

theorem Materializes.keeps_invoke (hm : d.Materializes) (m : ModuleId) (path : String)
    (arguments : List Value) : d.Keeps (Loader.invoke m path arguments) := by
  refine hm.keeps_withWording ((hm.keeps_walk _ _).bind fun target _ => ?_)
  refine (keeps_isCallable target).bind fun callable _ => ?_
  cases callable with
  | true => exact hm.governs.call target arguments
  | false => exact .pure target

end Script.Discipline

end UnitFoundry
