import UnitFoundry.Proofs.Loader.Failures
import UnitFoundry.Proofs.Session.Reachable

/-!
# What is served without a backend

A compilation first asks whether the unit is active under the very name it was given. If it is, the
active context is loaded, and what the load ends with decides: a module is served, an exception goes
on to the caller, and an error says that the artifact cannot be used, so that the unit is compiled
after all.

* `Active` — a context is active under the very name asked for;
* `Serves` — a compilation of the name ends without its backend;
* `cached_eq_none_iff` — **a backend is needed exactly if nothing is served**;
* `load_of_cached`, `compile_of_cached` — what is served is what a load of the active context gives.
-/

namespace UnitFoundry.Compiler

open Script

/-- A context is active under the very name asked for. -/
def Active (s : Session) (name : String) (id : ContextId) : Prop :=
  s.registry.lookup? (UnitName.canonical name) = some id ∧
    ∃ c, s.contexts[id]? = some c ∧ c.qualified = name

/-- A compilation of a name ends without its backend: a context is active under this name, and a load
of it does not say that its artifact cannot be used. -/
def Serves (s : Session) (name : String) : Prop :=
  ∃ id, Active s name id ∧ ∀ e t, Loader.load id s ≠ .error (.error e) t

variable {s t u : Session} {name : String} {id : ContextId} {m : ModuleId}

/-! ## The active context of a name -/

/-- What a load of the active context ends with decides. -/
theorem cached_of_active (h : Active s name id) :
    cached name s = (Action.attempt (Loader.load id) >>= served name) s := by
  obtain ⟨hid, c, hc, hq⟩ := h
  rw [cached, Action.bind_ok (Action.lookup_apply _ s), hid]
  dsimp only
  rw [Action.bind_ok (Action.context_some hc), if_neg (not_not_intro hq)]

/-- A module that is loaded is served. -/
theorem cached_of_load (h : Active s name id) (hl : Loader.load id s = .ok m t) :
    ∃ log, cached name s = .ok (some m) { t with log } := by
  rw [cached_of_active h, Action.bind_ok (Action.attempt_ok hl)]
  exact ⟨_, rfl⟩

/-- If the artifact cannot be used, nothing is served. -/
theorem cached_of_unusable (h : Active s name id) {e : FoundryError}
    (hl : Loader.load id s = .error (.error e) t) :
    ∃ log, cached name s = .ok none { t with log } := by
  have hunusable : isUnusable e = true := Loader.load_fails hl
  rw [cached_of_active h, Action.bind_ok (Action.attempt_error hl), served, if_pos hunusable]
  exact ⟨_, rfl⟩

/-- An exception goes on to the caller. -/
theorem cached_of_exception (h : Active s name id) {f : Failure} (hf : ∀ e, f ≠ .error e)
    (hl : Loader.load id s = .error f t) : cached name s = .error f t := by
  rw [cached_of_active h, Action.bind_ok (Action.attempt_error hl)]
  cases f with
  | error e => exact absurd rfl (hf e)
  | invalid => rfl
  | raised => rfl
  | thrown => rfl

/-- Without an active context of the name nothing is served, and nothing has happened. -/
theorem cached_of_not_active (hs : s.Sound) (h : ∀ id, ¬ Active s name id) :
    cached name s = .ok none s := by
  rw [cached, Action.bind_ok (Action.lookup_apply _ s)]
  cases hid : s.registry.lookup? (UnitName.canonical name) with
  | none => rfl
  | some id =>
    obtain ⟨c, hc⟩ : ∃ c, s.contexts[id]? = some c :=
      ⟨_, List.getElem?_eq_getElem (hs.linked _ id hid)⟩
    have hq : c.qualified ≠ name := fun hq => h id ⟨hid, c, hc, hq⟩
    dsimp only
    rw [Action.bind_ok (Action.context_some hc), if_pos hq]
    rfl

/-! ## What is served -/

/-- What is served comes from the active context of the name. -/
theorem active_of_cached (hs : s.Sound) (h : ∀ t, cached name s ≠ .ok none t) :
    ∃ id, Active s name id := by
  by_cases hactive : ∃ id, Active s name id
  · exact hactive
  · exact absurd (cached_of_not_active hs (not_exists.1 hactive)) (h s)

/-- **A backend is needed exactly if nothing is served.** -/
theorem cached_eq_none_iff (hs : s.Sound) : (∃ t, cached name s = .ok none t) ↔ ¬ Serves s name := by
  constructor
  · rintro ⟨t, hnone⟩ ⟨id, hactive, hload⟩
    cases hl : Loader.load id s with
    | ok m u =>
      obtain ⟨log, hsome⟩ := cached_of_load hactive hl
      cases hnone.symm.trans hsome
    | error f u =>
      have hthrown := cached_of_exception hactive (fun e he => hload e u (he ▸ hl)) hl
      cases hnone.symm.trans hthrown
  · intro hserves
    by_cases hactive : ∃ id, Active s name id
    · obtain ⟨id, hactive⟩ := hactive
      obtain ⟨e, t, hl⟩ : ∃ e t, Loader.load id s = .error (.error e) t := by
        by_contra hload
        push Not at hload
        exact hserves ⟨id, hactive, hload⟩
      obtain ⟨log, hnone⟩ := cached_of_unusable hactive hl
      exact ⟨_, hnone⟩
    · exact ⟨s, cached_of_not_active hs (not_exists.1 hactive)⟩

/-- What is served is what a load of the active context gives. -/
theorem load_of_cached (hs : s.Sound)
    (hid : s.registry.lookup? (UnitName.canonical name) = some id)
    (h : cached name s = .ok (some m) u) :
    ∃ t log, Loader.load id s = .ok m t ∧ u = { t with log } := by
  obtain ⟨active, hactive⟩ := active_of_cached hs fun t hnone => by cases hnone.symm.trans h
  obtain rfl : active = id := Option.some.inj (hactive.1.symm.trans hid)
  cases hl : Loader.load active s with
  | ok n t =>
    obtain ⟨log, hsome⟩ := cached_of_load hactive hl
    cases hsome.symm.trans h
    exact ⟨t, log, rfl, rfl⟩
  | error f t =>
    cases f with
    | error e =>
      obtain ⟨log, hnone⟩ := cached_of_unusable hactive hl
      cases hnone.symm.trans h
    | invalid =>
      cases (cached_of_exception hactive (by simp) hl).symm.trans h
    | raised =>
      cases (cached_of_exception hactive (by simp) hl).symm.trans h
    | thrown =>
      cases (cached_of_exception hactive (by simp) hl).symm.trans h

/-- What is active fails with exceptions only: other failures lead to the backend. -/
theorem ne_error_of_cached (hs : s.Sound) {f : Failure} (h : cached name s = .error f t)
    (e : FoundryError) : f ≠ .error e := by
  obtain ⟨id, hactive⟩ := active_of_cached hs fun u hnone => by cases hnone.symm.trans h
  rintro rfl
  cases hl : Loader.load id s with
  | ok m u =>
    obtain ⟨log, hsome⟩ := cached_of_load hactive hl
    cases hsome.symm.trans h
  | error g u =>
    by_cases hg : ∃ e, g = .error e
    · obtain ⟨e, rfl⟩ := hg
      obtain ⟨log, hnone⟩ := cached_of_unusable hactive hl
      cases hnone.symm.trans h
    · cases (cached_of_exception hactive (not_exists.1 hg) hl).symm.trans h
      exact hg ⟨e, rfl⟩

/-- A compilation gives what is served, and invokes no backend. -/
theorem compile_of_cached (backend : Backend) (source : String)
    (h : cached name s = .ok (some m) t) : compile backend name source s = .ok m t := by
  have honce : compileOnce backend name source s.policy.options s = .ok m t := by
    rw [compileOnce, Action.bind_ok h]
    rfl
  rw [compile, Action.bind_ok (Action.get_apply s), Action.bind_ok (Action.attempt_ok honce)]
  rfl

end UnitFoundry.Compiler
