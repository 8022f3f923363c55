import UnitFoundry.Proofs.Emission.Standing
import UnitFoundry.Proofs.Session.Reachable

/-!
# What is published

Writers of many generations may be open at once, and be closed in another order than they were opened.
What the registry and the scopes hold is determined by the closings alone: a context is published when
its writer is closed, with the bytes that were written to it, and takes the place of the one before it.

* `Stands.perform`, `Stands.run` — every step, and so every run, leaves a store as it stands by what was
  done;
* `Publishes` — what the registry and the scopes of a session hold after what was done;
* `run_publishes` — **after any run of steps**, they hold what was published.
-/

namespace UnitFoundry.Emission

open Script Text

variable {s t : Session} {done : List Step}

/-! ## Steps and runs -/

/-- **One more step.** If it is done, the store stands as before with this step; if it is refused, nothing
has changed. -/
theorem Stands.perform (h : Stands done s) (step : Step) :
    (∃ t, step.perform s = .ok ⟨⟩ t ∧ Stands (done ++ [step]) t) ∨
      ∃ f, step.perform s = .error f s := by
  cases step with
  | openScope => exact .inl ⟨_, rfl, h.openScope⟩
  | openOutput scope location name sibling =>
    rw [Step.perform, Action.bind_ok (Action.get_apply s)]
    by_cases hscope : scope.all (· < s.scopes.length)
    · obtain ⟨log, hopen⟩ := openOutput_apply scope location name sibling s
      rw [if_pos hscope, Action.bind_ok hopen]
      refine .inl ⟨_, rfl, h.openOutput location name sibling (fun k hk => ?_) log⟩
      subst hk
      exact of_decide_eq_true hscope
    · rw [if_neg hscope]
      exact .inr ⟨_, rfl⟩
  | write id data =>
    rw [Step.perform]
    cases hw : s.writers[id]? with
    | none => exact .inr ⟨_, Action.bind_error (Action.bind_error (writer_none hw))⟩
    | some w =>
      cases hwrite : w.writer.write data with
      | error f => exact .inr ⟨f, Action.bind_error (write_error hw hwrite)⟩
      | ok v => exact .inl ⟨_, Action.bind_ok (write_ok hw hwrite), h.write hw hwrite⟩
  | close id =>
    rw [Step.perform]
    cases hw : s.writers[id]? with
    | none => exact .inr ⟨_, Action.bind_error (writer_none hw)⟩
    | some w =>
      have hid : id < (openings done).length := h.writers ▸ (List.getElem?_eq_some_iff.1 hw).1
      obtain ⟨o, c, ho, hc, hstanding⟩ := h.standing hid
      obtain rfl : o = w := Option.some.inj (ho.symm.trans hw)
      by_cases hclosed : o.writer.closed
      · exact .inl ⟨s, close_of_closed hw hclosed, h.closeAgain (hstanding.closed.1 hclosed)⟩
      · have hopen : o.writer.closed = false := Bool.eq_false_iff.2 hclosed
        obtain ⟨log, hclose⟩ := close_apply hw hopen (hstanding.context.symm ▸ hc) fun _ => h.linked
        exact .inl ⟨_, hclose, h.close hw hopen hc log⟩
  | drop id => exact .inl ⟨s, rfl, h.drop id⟩
  | clear => exact .inl ⟨_, rfl, h.clear⟩

/-- A store in which nothing was done. -/
theorem stands_fresh (h : s.IsFresh) : Stands [] s where
  writers := by rw [h.writers]; rfl
  contexts := by rw [h.contexts]; rfl
  count := by rw [h.scopes]; rfl
  each id w c hw := by simp [h.writers] at hw
  known id hid := by cases hid
  unwritten _ _ := rfl
  through o ho := by cases ho
  registry := by
    rw [h.registry]
    exact Records.nil
  scopes scope found hfound := by simp [h.scopes] at hfound

/-- **A whole run.** -/
theorem Stands.run (h : Stands done s) (steps : List Step) :
    Stands (done ++ (run steps s).1) (run steps s).2 := by
  induction steps generalizing done s with
  | nil =>
    rw [Emission.run, List.append_nil]
    exact h
  | cons step rest ih =>
    rw [Emission.run]
    rcases h.perform step with ⟨t, hdone, ht⟩ | ⟨f, hrefused⟩
    · rw [hdone]
      have hrest := ih ht
      rw [List.append_assoc] at hrest
      exact hrest
    · rw [hrefused]
      exact ih h

/-! ## Publications -/

/-- What the registry and the scopes of a session hold after what was done. -/
structure Publishes (done : List Step) (s : Session) : Prop where
  /-- Every writer has a context of its own, with the name it was opened for. -/
  opened : ∀ id name scope, (openings done)[id]? = some (name, scope) →
    ∃ (w : OpenWriter) (c : Context), s.writers[id]? = some w ∧ w.context = id ∧ w.scope = scope ∧
      s.contexts[id]? = some c ∧ c.qualified = name
  /-- An active context has a frozen artifact, with all that was written to its writer. -/
  frozen : ∀ id ∈ s.registry.contexts, ∃ c : Context, s.contexts[id]? = some c ∧
    c.artifact.content = .frozen (written id done)
  /-- The active context of a canonical name is the one whose writer was closed last, since the registry
  was cleared. -/
  active : ∀ canonical, s.registry.lookup? canonical = lastSet? (generations done) canonical
  /-- A context is active under its canonical name. -/
  keyed : ∀ key id, (key, id) ∈ s.registry.entries →
    ∃ c : Context, s.contexts[id]? = some c ∧ key = UnitName.canonical c.qualified
  /-- The active contexts are listed in the order in which their canonical names were first published,
  since the registry was cleared. -/
  ordered : s.registry.contexts =
    ((generations done).map (·.1)).eraseDups.filterMap (lastSet? (generations done))
  /-- There are as many scopes as were opened. -/
  scopes : s.scopes.length = done.countP Step.isScope
  /-- A scope holds the contexts published through it, the last one for each qualified name. -/
  emitted : ∀ scope found, s.scopes[scope]? = some found →
    found.map (·.1) = ((emissions scope done).map (·.1)).eraseDups ∧
      ∀ name, lookupEntry name found = lastSet? (emissions scope done) name
  /-- A writer that was not closed, because it is still open or was dropped, is seen nowhere. -/
  hidden : ∀ id, id ∉ closings done →
    id ∉ s.registry.contexts ∧ ∀ found ∈ s.scopes, id ∉ found.map (·.2)

namespace Stands

variable {id : ContextId} {key : String}

/-- What the registry holds was published. -/
theorem mem_published (h : Stands done s) (hentry : (key, id) ∈ s.registry.entries) :
    id ∈ published done ∧
      ∃ name scope, (openings done)[id]? = some (name, scope) ∧ key = UnitName.canonical name :=
  mem_generations.1 (h.registry.mem_entered hentry)

theorem mem_published_of_contexts (h : Stands done s) (hid : id ∈ s.registry.contexts) :
    id ∈ published done := by
  obtain ⟨⟨key, _⟩, hentry, rfl⟩ := List.mem_map.1 hid
  exact (h.mem_published hentry).1

/-- What was closed is frozen. -/
theorem frozen_of_closed (h : Stands done s) (hid : id ∈ closings done) :
    ∃ c, s.contexts[id]? = some c ∧ c.artifact.content = .frozen (written id done) := by
  obtain ⟨w, c, -, hc, hstanding⟩ := h.standing (h.known id hid)
  refine ⟨c, hc, ?_⟩
  rw [hstanding.content, if_pos (hstanding.closed.2 hid), hstanding.buffer]

/-- A store that stands as what was done says holds what was published. -/
theorem publishes (h : Stands done s) : Publishes done s where
  opened id name scope hopening := by
    obtain ⟨w, c, hw, hc, hstanding⟩ := h.standing (List.getElem?_eq_some_iff.1 hopening).1
    obtain ⟨hname, hscope⟩ := Prod.mk.inj (Option.some.inj (hstanding.opened.symm.trans hopening))
    exact ⟨w, c, hw, hstanding.context, hscope, hc, hname⟩
  frozen id hid := h.frozen_of_closed (mem_closings_of_published (h.mem_published_of_contexts hid))
  active := h.registry.last
  keyed key id hentry := by
    obtain ⟨hpublished, name, scope, hopening, rfl⟩ := h.mem_published hentry
    obtain ⟨w, c, -, hc, hstanding⟩ := h.standing (h.known id (mem_closings_of_published hpublished))
    obtain ⟨rfl, -⟩ := Prod.mk.inj (Option.some.inj (hstanding.opened.symm.trans hopening))
    exact ⟨c, hc, rfl⟩
  ordered := h.registry.values
  scopes := h.count
  emitted scope found hfound := ⟨(h.scopes scope found hfound).keys, (h.scopes scope found hfound).last⟩
  hidden id hid := by
    refine ⟨fun hactive => hid (mem_closings_of_published (h.mem_published_of_contexts hactive)), ?_⟩
    intro found hfound hmem
    obtain ⟨scope, hscope⟩ := List.getElem?_of_mem hfound
    obtain ⟨⟨name, _⟩, hentry, rfl⟩ := List.mem_map.1 hmem
    exact hid (closed_of_emissions ((h.scopes scope found hscope).mem_entered hentry))

end Stands

/-- **After any run of steps**, starting where nothing was compiled, the registry and the scopes hold what
was published by the steps that were done. -/
theorem run_publishes (h : s.IsFresh) (steps : List Step) :
    Publishes (run steps s).1 (run steps s).2 :=
  ((stands_fresh h).run steps).publishes

/-- Two generations of a unit, of which the older one is closed last. -/
def crossing : List Step :=
  [.openScope, .openOutput (some 0) .classOutput "p.A_ts1" none,
    .openOutput (some 0) .classOutput "p.A_ts2" none, .openOutput none .classOutput "p.A_ts3" none,
    .write 1 [2], .write 0 [1], .close 1, .close 0, .close 1, .drop 2]

theorem crossing_publishes :
    Session.IsFresh {} ∧ Publishes (run crossing {}).1 (run crossing {}).2 ∧
      (run crossing {}).2.registry.lookup? "p.A" = some 0 :=
  ⟨Session.isFresh_empty, run_publishes Session.isFresh_empty crossing, by decide +kernel⟩

end UnitFoundry.Emission
