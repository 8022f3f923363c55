import UnitFoundry.Proofs.Loader.Making

/-!
# How loads fail

A load that fails does so with an exception, or with an error that says that an artifact cannot be
used. It is never a rejection, never a report about a unit that is not registered, and never a faulty
record: those come from elsewhere.

* `Discipline.Loads.of_registry` — a discipline that looks at the registry alone allows loads;
* `Loader.load_fails` — **loads end with no other failures**.
-/

namespace UnitFoundry

open Script Text

/-! ## Disciplines that look at the registry alone -/

namespace Script.Discipline

/-- What always succeeds and leaves the registry as it is. -/
theorem keeps_of_registry {d : Discipline} {α : Type} {act : Action α}
    (h : ∀ s t, t.registry = s.registry → d.inv s → d.inv t ∧ d.rel s t)
    (hact : ∀ s, ∃ a t, act s = .ok a t ∧ t.registry = s.registry)
    (halike : d.alike = Eq := by rfl) : d.Keeps act := by
  refine .of_goes_on (fun s hs => ?_) halike
  obtain ⟨a, t, ha, hr⟩ := hact s
  obtain ⟨ht, hst⟩ := h s t hr hs
  exact ⟨t, pure a, ht, hst, .pure a, ha⟩

/-- No step by which a module is made touches the registry. -/
theorem Loads.of_registry {d : Discipline}
    (h : ∀ s t, t.registry = s.registry → d.inv s → d.inv t ∧ d.rel s t)
    (hfails : ∀ e, Compiler.isUnusable e → d.fails (.error e)) (hbind : ∀ m, d.mayBind m)
    (halike : d.alike = Eq := by rfl) : d.Loads where
  plain := halike
  created id c := by
    refine keeps_of_registry h (fun s => ?_) halike
    obtain ⟨m, made, hm⟩ := Action.newUnitModule_apply id c s
    exact ⟨_, _, hm, rfl⟩
  quiet _ _ _ hs := h _ _ rfl hs
  begun _ _ := keeps_of_registry h (fun _ => ⟨_, _, rfl, rfl⟩) halike
  ended _ _ _ := keeps_of_registry h (fun _ => ⟨_, _, rfl, rfl⟩) halike
  unusable := hfails
  room _ := hbind _

end Script.Discipline

/-! ## The failures of loads -/

namespace Loader

/-- To fail as loads do. -/
def failing : Discipline where
  inv _ := True
  rel _ _ := True
  fails := Failure.IsOfLoad
  refl _ := trivial
  trans _ _ := trivial
  raised _ := trivial
  thrown _ _ := trivial
  own _ _ := ⟨trivial, trivial⟩

theorem failing_loads : failing.Loads :=
  .of_registry (fun _ _ _ _ => ⟨trivial, trivial⟩) (fun _ hunusable => hunusable) fun _ => trivial

/-- **A load fails with an exception, or because an artifact cannot be used.** -/
theorem load_fails {id : ContextId} {s t : Session} {f : Failure}
    (h : Loader.load id s = .error f t) : f.IsOfLoad :=
  ((failing_loads.materializes.keeps_load id).error trivial h).2.2

end Loader

end UnitFoundry
