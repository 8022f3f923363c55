import UnitFoundry.Proofs.Lists
import UnitFoundry.Proofs.Loader.Failures

/-!
# What loads leave alone

A load makes modules, objects and copies of artifacts, and marks contexts as loaded. Whatever part of a
session does not depend on these is after a load what it was before, in whatever way the load ends, and
whatever bodies it has run.

* `leftBy` — the session that a result leaves behind;
* `Untouched` — a part of the session that no step of a load touches;
* `Untouched.load` — **loads leave it as it is**;
* `untouched_registry`, `untouched_archive` — such as the registry, and the names and artifacts of contexts.
-/

namespace UnitFoundry

open Script Text

/-- The session that a result leaves behind. -/
def leftBy {α : Type} : EStateM.Result Failure Session α → Session
  | .ok _ t => t
  | .error _ t => t

/-- What an operation keeps to holds of the session that it leaves behind. -/
theorem Contract.Keeps.leftBy {c : Contract Session} {α : Type} {act : Action α} (h : c.Keeps act)
    {s : Session} (hs : c.inv s) : c.inv (leftBy (act s)) ∧ c.rel s (leftBy (act s)) := by
  cases hact : act s with
  | ok a t => exact h.ok hs hact
  | error f t =>
    obtain ⟨ht, hst, -⟩ := h.error hs hact
    exact ⟨ht, hst⟩

/-- The names and the artifacts of all contexts. -/
def Session.archive (s : Session) : List (String × File) :=
  s.contexts.map fun c => (c.qualified, c.artifact)

namespace Loader

variable {β : Type} {part : Session → β}

/-- A part of the session that no step of a load touches. -/
structure Untouched (part : Session → β) : Prop where
  objects : ∀ s objects, part { s with objects } = part s
  made : ∀ s made, part { s with made } = part s
  modules : ∀ s modules assigned, part { s with modules, assigned } = part s
  saved : ∀ s sideStore disk log, part { s with sideStore, disk, log } = part s
  begun : ∀ s id m, part (s.begun id m) = part s
  ended : ∀ s id m how, part (s.ended id m how) = part s

/-- To leave a part of the session as it is. -/
def leaving (part : Session → β) (h : Untouched part) : Discipline where
  inv _ := True
  rel s t := part t = part s
  fails _ := True
  refl _ := rfl
  trans hst htu := htu.trans hst
  raised _ := trivial
  thrown _ _ := trivial
  own := by
    rintro s _ ⟨⟩ -
    · exact ⟨trivial, h.objects s _⟩
    · exact ⟨trivial, h.made s _⟩
    · exact ⟨trivial, h.modules s _ s.assigned⟩
    · exact ⟨trivial, h.modules s _ _⟩

/-- What always succeeds and leaves a part of the session as it is. -/
theorem keeps_leaving {α : Type} {act : Action α} (h : Untouched part)
    (hact : ∀ s, ∃ a t, act s = .ok a t ∧ part t = part s) : (leaving part h).Keeps act := by
  refine .of_goes_on fun s _ => ?_
  obtain ⟨a, t, ha, hpart⟩ := hact s
  exact ⟨t, pure a, trivial, hpart, .pure a, ha⟩

theorem leaving_loads (h : Untouched part) : (leaving part h).Loads where
  created id c := keeps_leaving h fun s => by
    obtain ⟨m, made, hm⟩ := Action.newUnitModule_apply id c s
    exact ⟨_, _, hm, (h.modules { s with made } _ s.assigned).trans (h.made s made)⟩
  quiet _ _ _ _ := ⟨trivial, h.saved ..⟩
  begun id m := keeps_leaving h fun s => ⟨_, _, rfl, h.begun s id m⟩
  ended id m how := keeps_leaving h fun s => ⟨_, _, rfl, h.ended s id m how⟩
  unusable _ _ := trivial
  room _ := trivial

/-- **Loads leave it as it is**, whatever they end with. -/
theorem Untouched.load (h : Untouched part) (id : ContextId) (s : Session) :
    part (leftBy (Loader.load id s)) = part s :=
  (((leaving_loads h).materializes.keeps_load id).leftBy trivial).2

/-! ## Parts that loads leave alone -/

theorem untouched_registry : Untouched Session.registry :=
  ⟨fun _ _ => rfl, fun _ _ => rfl, fun _ _ _ => rfl, fun _ _ _ _ => rfl, fun _ _ _ => rfl,
    fun _ _ _ _ => rfl⟩

theorem untouched_overlay : Untouched Session.overlay :=
  ⟨fun _ _ => rfl, fun _ _ => rfl, fun _ _ _ => rfl, fun _ _ _ _ => rfl, fun _ _ _ => rfl,
    fun _ _ _ _ => rfl⟩

theorem untouched_scopes : Untouched Session.scopes :=
  ⟨fun _ _ => rfl, fun _ _ => rfl, fun _ _ _ => rfl, fun _ _ _ _ => rfl, fun _ _ _ => rfl,
    fun _ _ _ _ => rfl⟩

/-- What changes neither the name nor the artifact of a context changes no archive. -/
theorem archive_modify {s : Session} {id : ContextId} {change : Context → Context}
    (h : ∀ c, (change c).qualified = c.qualified ∧ (change c).artifact = c.artifact) :
    (s.contexts.modify id change).map (fun c => (c.qualified, c.artifact)) = s.archive := by
  refine List.ext_getElem? fun i => ?_
  rw [Session.archive, List.getElem?_map, List.getElem?_map, List.getElem?_modify]
  cases s.contexts[i]? with
  | none => rfl
  | some c =>
    by_cases hi : id = i
    · simp [hi, h c]
    · simp [hi]

theorem untouched_archive : Untouched Session.archive := by
  refine ⟨fun _ _ => rfl, fun _ _ => rfl, fun _ _ _ => rfl, fun _ _ _ _ => rfl,
    fun s id m => archive_modify fun c => ⟨rfl, rfl⟩, fun s id m how => archive_modify fun c => ?_⟩
  cases how with
  | completed => exact ⟨rfl, rfl⟩
  | failed => exact ⟨rfl, rfl⟩
  | left => exact ⟨rfl, rfl⟩

end Loader

end UnitFoundry
