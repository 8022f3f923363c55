import UnitFoundry.Proofs.Emission.Courses

/-!
# What is active is finished

A context comes into the registry by the closing of its writer, and then its artifact has its final
bytes: they never change again. Only who publishes contexts otherwise, pending ones or again, can bring
one into the registry whose artifact nobody has written.

* `Session.HasFinished` — a context is there, with a finished artifact;
* `Session.Settled` — all that is registered is finished;
* `Session.finishing` — finished artifacts stay finished, and the registry stays settled;
* `Session.Regular` — the sessions that operations lead to which publish by writers only;
* `Regular.settled` — **what is active in them is finished**;
* `Course.finished` — so is everything that is published while a backend runs.
-/

namespace UnitFoundry

open Script Text

namespace Session

variable {s t : Session} {id other : ContextId} {c : Context}

/-- A context is there, and its artifact has its final bytes. -/
def HasFinished (s : Session) (id : ContextId) : Prop :=
  ∃ c, s.contexts[id]? = some c ∧ c.artifact.isFrozen = true

/-- Every context that is registered is finished. -/
def Settled (s : Session) : Prop :=
  ∀ canonical id, s.registry.lookup? canonical = some id → s.HasFinished id

theorem HasFinished.of_contexts (h : s.HasFinished id) (hc : t.contexts = s.contexts) :
    t.HasFinished id := by
  unfold HasFinished
  rw [hc]
  exact h

/-- One more context spares those that are there. -/
theorem HasFinished.concat (h : s.HasFinished id) (made : Context) :
    HasFinished { s with contexts := s.contexts ++ [made] } id := by
  obtain ⟨c, hc, hfrozen⟩ := h
  exact ⟨c, (List.getElem?_append_left (List.getElem?_eq_some_iff.1 hc).1).trans hc, hfrozen⟩

/-- A change of contexts that leaves finished artifacts finished. -/
theorem HasFinished.modify {change : Context → Context} (h : s.HasFinished id) (other : ContextId)
    (hchange : ∀ c, c.artifact.isFrozen = true → (change c).artifact.isFrozen = true) :
    HasFinished { s with contexts := s.contexts.modify other change } id := by
  obtain ⟨c, hc, hfrozen⟩ := h
  by_cases heq : other = id
  · subst heq
    exact ⟨change c, by simp [hc], hchange c hfrozen⟩
  · exact ⟨c, (List.getElem?_modify_ne _ _ heq).trans hc, hfrozen⟩

/-- As long as finished artifacts stay finished, the same registry stays settled. -/
theorem Settled.congr (h : s.Settled) (hr : t.registry = s.registry)
    (hkept : ∀ id, s.HasFinished id → t.HasFinished id) : t.Settled := by
  intro canonical id hid
  rw [hr] at hid
  exact hkept id (h canonical id hid)

/-- Finished artifacts stay finished, and the registry stays settled. -/
def finishing : Discipline where
  inv := Settled
  rel s t := ∀ id, s.HasFinished id → t.HasFinished id
  fails _ := True
  refl _ _ h := h
  trans h h' id hid := h' id (h id hid)
  raised _ := trivial
  thrown _ _ := trivial
  own := by
    rintro s _ ⟨⟩ hs
    all_goals exact ⟨hs.congr rfl fun _ hid => hid, fun _ hid => hid⟩

/-- Finished artifacts stay finished where nothing else happens to contexts. -/
theorem Settled.kept (h : s.Settled) (hr : t.registry = s.registry)
    (hkept : ∀ id, s.HasFinished id → t.HasFinished id) :
    t.Settled ∧ ∀ id, s.HasFinished id → t.HasFinished id :=
  ⟨h.congr hr hkept, hkept⟩

theorem finishing_hosts : finishing.Hosts where
  quiet _ _ _ hs := hs.kept rfl fun _ hid => hid
  unusable _ _ := trivial
  room _ := trivial
  ran {s s₁ t id c m body result} hs hc hm _ hnew hbody hrun := by
    obtain ⟨rfl, unit, made, rfl⟩ := Action.newUnitModule_eq_ok hnew
    have hbegun := hs.kept (t := Session.begun { s with made, modules := s.modules ++ [unit] } id
      s.modules.length) rfl fun _ hid => hid.modify id fun _ hfrozen => hfrozen
    obtain ⟨ht, hrel⟩ := (Discipline.keeps_attempt hbody).ok hbegun.1 hrun
    have hended := Settled.kept (t := t.ended id s.modules.length (.of result)) ht rfl fun _ hid =>
      hid.modify id fun c hfrozen => by
        cases Exit.of result <;> exact hfrozen
    exact ⟨hended.1, fun other hother => hended.2 other (hrel other (hbegun.2 other hother))⟩

/-- Compilations leave finished artifacts finished, and publish no others. -/
def finishingCompiling : Compiling where
  toDiscipline := finishing
  mayPublish c := c.artifact.isFrozen = true
  finished _ h := h
  aside h hs := hs.kept h.registry fun _ hid => hid.of_contexts h.contexts
  created _ _ _ hs := hs.kept rfl fun _ hid => hid.concat _
  opened _ _ _ _ hs := hs.kept rfl fun _ hid => hid.concat _
  written _ _ _ _ _ _ hs := hs.kept rfl fun _ hid => hid
  sealed _ _ w _ _ hs := hs.kept rfl fun _ hid => hid.modify w.context fun _ _ => rfl
  published s id c hc hfrozen hs := by
    refine ⟨fun canonical other hother => ?_, fun _ hid => hid⟩
    rw [Registry.lookup?_replace] at hother
    split at hother
    · obtain rfl := Option.some.inj hother
      exact ⟨c, hc, hfrozen⟩
    · exact hs canonical other hother
  lenient _ := trivial
  materializes := finishing_hosts.materializes

theorem finishing_clear (s : Session) (_hs : s.Settled) :
    Settled { s with registry := {} } ∧ ∀ id, s.HasFinished id → HasFinished { s with registry := {} } id :=
  ⟨nofun, fun _ hid => hid⟩

/-! ## Sessions in which writers publish -/

/-- The sessions that operations lead to which publish contexts by writers only. -/
inductive Regular : Session → Prop where
  | fresh {s : Session} (h : s.IsFresh) : Regular s
  | step {s : Session} (h : Regular s) (operation : Operation) (hregular : operation.isRegular = true) :
    Regular (s.after operation.perform)

theorem Regular.reachable (h : s.Regular) : s.Reachable := by
  induction h with
  | fresh h => exact .fresh h
  | step _ operation _ ih => exact .step ih operation

/-- **What is active is finished**, if contexts are published by writers only. -/
theorem Regular.settled (h : s.Regular) : s.Settled := by
  induction h with
  | fresh h =>
    intro canonical id hid
    rw [h.registry] at hid
    cases hid
  | step _ operation hregular ih =>
    exact (inv_after (keeps_perform finishingCompiling finishing_clear operation (.inl hregular)) ih).1

end Session

/-! ## What is published while a backend runs -/

namespace Emission

variable {s t : Session} {id : WriterId} {p : Publication}

/-- The closing of a writer finishes what it publishes. -/
theorem hasFinished_of_close (hs : s.Sound) (h : published? id s = some p) (hclose : Leaves (close id) s t) :
    t.HasFinished p.context := by
  obtain ⟨w, hw, hp⟩ := Option.bind_eq_some_iff.1 h
  split at hp
  · cases hp
  · rename_i hopen
    obtain ⟨c, hc, rfl⟩ := Option.map_eq_some_iff.1 hp
    obtain ⟨log, hclosed⟩ := close_apply hw (Bool.eq_false_iff.2 hopen) hc (hs.linked c.canonical)
    obtain rfl := (Leaves.ok hclosed).unique hclose
    exact ⟨_, getElem?_sealed id hc, File.isFrozen_freeze ..⟩

/-- **Whatever is published while a backend runs is finished in the end**, whoever publishes it. -/
theorem Course.finished {others : Step → Prop} {scope : ScopeId} {α : Type} {program : Program α}
    {ps : List Publication} {result : Except Failure α}
    (h : Course others scope program s ps result t) (hs : s.Sound) (hsettled : s.Settled) :
    t.Settled ∧ (∀ id, s.HasFinished id → t.HasFinished id) ∧ ∀ p ∈ ps, t.HasFinished p.context := by
  induction h with
  | done x s => exact ⟨hsettled, fun _ hid => hid, nofun⟩
  | fail f s => exact ⟨hsettled, fun _ hid => hid, nofun⟩
  | @ask request next s u t answer ps result hanswer _ ih =>
    have hleaves : Leaves (request.perform logDiagnostic scope) s u := ⟨answer, hanswer⟩
    have hsound := hleaves.kept (Session.soundEmitting.keeps_request
      Session.soundEmitting.keeps_logDiagnostic scope (Emitting.IsFree.request {} request)) hs
    obtain ⟨hu, hkept⟩ := hleaves.kept (Session.finishingCompiling.toEmitting.keeps_request
      Session.finishingCompiling.toEmitting.keeps_logDiagnostic scope
      (Emitting.IsFree.request {} request)) hsettled
    obtain ⟨ht, hkept', hlater⟩ := ih hsound.1 hu
    refine ⟨ht, fun id hid => hkept' id (hkept id hid), fun p hp => ?_⟩
    rcases List.mem_append.1 hp with hp | hp
    · -- what is published is finished at once, and stays so
      have hnow := Option.mem_toList.1 hp
      refine hkept' _ ?_
      cases request with
      | close id => exact hasFinished_of_close hs hnow hleaves
      | _ => cases hnow
    · exact hlater p hp
  | @meanwhile program s t ps result step _ _ ih =>
    have hleaves := leaves_after step.perform s
    have hsound := hleaves.kept (step.keeps_perform Session.soundCompiling Session.sound_clear) hs
    obtain ⟨hu, hkept⟩ :=
      hleaves.kept (step.keeps_perform Session.finishingCompiling Session.finishing_clear) hsettled
    obtain ⟨ht, hkept', hlater⟩ := ih hsound.1 hu
    refine ⟨ht, fun id hid => hkept' id (hkept id hid), fun p hp => ?_⟩
    rcases List.mem_append.1 hp with hp | hp
    · have hnow := Option.mem_toList.1 hp
      refine hkept' _ ?_
      cases step with
      | close id => exact hasFinished_of_close hs hnow hleaves
      | _ => cases hnow
    · exact hlater p hp

end Emission

end UnitFoundry
