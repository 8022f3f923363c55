import UnitFoundry.Proofs.Lists
import UnitFoundry.Proofs.Loader.Making

/-!
# What contexts remember of the runs of their bodies

The history of a session says which bodies have run, in which modules, and how the runs ended. A
context keeps two things of this: the module it holds and whether it is ready. Both can be read off
the last event of its unit.

* `Session.lastEvent?` — the last event of a context's unit;
* `Context.IsAfter` — the module and the readiness of a context as an event leaves them;
* `Session.Sound` — all contexts are as the history says, and all that is registered is there;
* `Session.sound` — to keep a session sound and to leave running what ran before, as a discipline;
* `sound_materializes` — **the making of a module keeps to it**, in whatever way its body ends;
* `materialize_ok` — what the making of a module hands out.
-/

namespace UnitFoundry

open Script

/-! ## Events -/

/-- The context whose unit an event belongs to. -/
def Event.context : Event → ContextId
  | begun id _ => id
  | ended id _ _ => id

namespace Session

/-- The last event of a context's unit. -/
def lastEvent? (s : Session) (id : ContextId) : Option Event :=
  (s.history.filter (·.context = id)).getLast?

variable {s t : Session} {id other : ContextId} {m : ModuleId} {e : Event}

theorem lastEvent?_of_append {e : Event} (h : t.history = s.history ++ [e]) (he : e.context = id) :
    t.lastEvent? id = some e := by
  simp [lastEvent?, h, he]

theorem lastEvent?_of_append_ne (e : Event) (h : t.history = s.history ++ [e]) (he : e.context ≠ id) :
    t.lastEvent? id = s.lastEvent? id := by
  simp [lastEvent?, h, he]

@[simp]
theorem lastEvent?_begun (s : Session) (id : ContextId) (m : ModuleId) :
    (s.begun id m).lastEvent? id = some (.begun id m) :=
  lastEvent?_of_append rfl rfl

@[simp]
theorem lastEvent?_ended (s : Session) (id : ContextId) (m : ModuleId) (how : Exit) :
    (s.ended id m how).lastEvent? id = some (.ended id m how) :=
  lastEvent?_of_append rfl rfl

theorem lastEvent?_begun_ne (s : Session) (m : ModuleId) (h : id ≠ other) :
    (s.begun id m).lastEvent? other = s.lastEvent? other :=
  lastEvent?_of_append_ne (.begun id m) rfl h

theorem lastEvent?_ended_ne (s : Session) (m : ModuleId) (how : Exit) (h : id ≠ other) :
    (s.ended id m how).lastEvent? other = s.lastEvent? other :=
  lastEvent?_of_append_ne (.ended id m how) rfl h

theorem lastEvent?_of_history (h : t.history = s.history) : t.lastEvent? id = s.lastEvent? id := by
  simp [lastEvent?, h]

theorem lastEvent?_context (h : s.lastEvent? id = some e) : e.context = id := by
  have he := List.mem_of_getLast? h
  simpa using (List.mem_filter.1 he).2

theorem lastEvent?_mem (h : s.lastEvent? id = some e) : e ∈ s.history :=
  (List.mem_filter.1 (List.mem_of_getLast? h)).1

/-- The body of a context's unit runs in a module. -/
def Runs (s : Session) (id : ContextId) (m : ModuleId) : Prop :=
  s.lastEvent? id = some (.begun id m)

end Session

/-! ## Contexts after events -/

/-- The module and the readiness of a context are those that the last event of its unit has left. -/
def Context.IsAfter (c : Context) : Option Event → Prop
  | none => c.module? = none ∧ c.ready = false
  | some (.begun _ m) => c.module? = some m ∧ c.ready = false
  | some (.ended _ m .completed) => c.module? = some m ∧ c.ready = true
  | some (.ended _ _ .failed) => c.module? = none ∧ c.ready = false
  | some (.ended _ m .left) => c.module? = some m ∧ c.ready = false

namespace Context.IsAfter

variable {c c' : Context} {last : Option Event}

theorem congr (h : c.IsAfter last) (hm : c'.module? = c.module?) (hr : c'.ready = c.ready) :
    c'.IsAfter last := by
  unfold IsAfter at *
  rw [hm, hr]
  exact h

theorem begun (h : c.IsAfter last) (hc : c.module? = none) (id : ContextId) (m : ModuleId) :
    Context.IsAfter { c with module? := some m } (some (.begun id m)) := by
  refine ⟨rfl, ?_⟩
  unfold IsAfter at h
  split at h
  all_goals first
    | exact h.2
    | simp [hc] at h

theorem ended {id : ContextId} {m : ModuleId} (h : c.IsAfter (some (.begun id m))) (how : Exit) :
    (how.settle c).IsAfter (some (.ended id m how)) := by
  cases how with
  | completed => exact ⟨h.1, rfl⟩
  | failed => exact ⟨rfl, h.2⟩
  | left => exact h

/-- A context is ready exactly if the last run has completed, which was in the module it holds. -/
theorem ready_iff (h : c.IsAfter last) :
    c.ready ↔ ∃ id m, last = some (.ended id m .completed) := by
  unfold IsAfter at h
  split at h
  all_goals simp [h.2]

end Context.IsAfter

/-! ## Sound sessions -/

namespace Session

/-- All contexts are as the history says, the history speaks of no others, and whatever is registered is
one of them. -/
structure Sound (s : Session) : Prop where
  known : ∀ e ∈ s.history, e.context < s.contexts.length
  told : ∀ id (c : Context), s.contexts[id]? = some c → c.IsAfter (s.lastEvent? id)
  linked : ∀ canonical id, s.registry.lookup? canonical = some id → id < s.contexts.length

/-- The same bodies run in two sessions. -/
def SameRuns (s t : Session) : Prop := ∀ id m, s.Runs id m ↔ t.Runs id m

namespace Sound

variable {s t : Session}

theorem congr (h : s.Sound) (hc : t.contexts = s.contexts) (hh : t.history = s.history)
    (hr : t.registry = s.registry) : t.Sound where
  known := by
    rw [hh, hc]
    exact h.known
  told id c hi := by
    rw [lastEvent?_of_history hh]
    exact h.told id c (hc ▸ hi)
  linked := by
    rw [hr, hc]
    exact h.linked

/-- A context of which nothing has happened yet is as it was made. -/
theorem lastEvent?_length (h : s.Sound) : s.lastEvent? s.contexts.length = none := by
  cases hl : s.lastEvent? s.contexts.length with
  | none => rfl
  | some e =>
    have hlt := h.known e (lastEvent?_mem hl)
    rw [lastEvent?_context hl] at hlt
    exact absurd hlt (Nat.lt_irrefl _)

end Sound

theorem SameRuns.refl (s : Session) : SameRuns s s := fun _ _ => Iff.rfl

theorem SameRuns.trans {s t u : Session} (h : SameRuns s t) (h' : SameRuns t u) : SameRuns s u :=
  fun id m => (h id m).trans (h' id m)

theorem SameRuns.of_history {s t : Session} (h : t.history = s.history) : SameRuns s t := by
  intro id m
  rw [Runs, Runs, lastEvent?_of_history h]

/-- To keep a session sound, with the same bodies running at the end as at the start. -/
def sound : Discipline where
  inv := Sound
  rel := SameRuns
  fails _ := True
  refl := SameRuns.refl
  trans := SameRuns.trans
  raised _ := trivial
  thrown _ _ := trivial
  own := by
    rintro s _ ⟨⟩ h
    all_goals exact ⟨h.congr rfl rfl rfl, .of_history rfl⟩

/-! ## Runs -/

variable {s t u : Session} {id : ContextId} {c : Context} {m : ModuleId}

/-- When a run begins, its context holds the module, and nothing else is different. -/
theorem Sound.begun (h : s.Sound) (hc : s.contexts[id]? = some c) (hm : c.module? = none)
    (m : ModuleId) : (s.begun id m).Sound where
  known e he := by
    rw [Session.begun, List.length_modify]
    rcases List.mem_append.1 he with he | he
    · exact h.known e he
    · obtain rfl := List.mem_singleton.1 he
      exact (List.getElem?_eq_some_iff.1 hc).1
  told other c' hc' := by
    rcases getElem?_modify_cases hc' with ⟨c₀, rfl, hc₀, rfl⟩ | ⟨hid, hc'⟩
    · obtain rfl : c₀ = c := Option.some.inj (hc₀.symm.trans hc)
      rw [lastEvent?_begun]
      exact (h.told id c₀ hc₀).begun hm id m
    · rw [lastEvent?_begun_ne s m hid]
      exact h.told other c' hc'
  linked canonical other hl := by
    rw [Session.begun, List.length_modify]
    exact h.linked canonical other hl

/-- When a run ends, its context is as the way in which it ended says, and nothing else is different. -/
theorem Sound.ended (h : s.Sound) (hr : s.Runs id m) (how : Exit) : (s.ended id m how).Sound where
  known e he := by
    rw [Session.ended, List.length_modify]
    rcases List.mem_append.1 he with he | he
    · exact h.known e he
    · obtain rfl := List.mem_singleton.1 he
      exact h.known (.begun id m) (lastEvent?_mem hr)
  told other c' hc' := by
    rcases getElem?_modify_cases hc' with ⟨c₀, rfl, hc₀, rfl⟩ | ⟨hid, hc'⟩
    · have hbegun := h.told id c₀ hc₀
      rw [hr] at hbegun
      rw [lastEvent?_ended]
      exact hbegun.ended how
    · rw [lastEvent?_ended_ne s m how hid]
      exact h.told other c' hc'
  linked canonical other hl := by
    rw [Session.ended, List.length_modify]
    exact h.linked canonical other hl

/-- A context without a module has no body running. -/
theorem Sound.not_runs (h : s.Sound) (hc : s.contexts[id]? = some c) (hm : c.module? = none) :
    ¬ s.Runs id m := by
  intro hruns
  have hafter := h.told id c hc
  rw [hruns] at hafter
  exact absurd (hm.symm.trans hafter.1) (by simp)

/-- **A run leaves a sound session behind**, in whatever way it ends. -/
theorem Sound.ran (h : s.Sound) (hc : s.contexts[id]? = some c) (hm : c.module? = none)
    (m : ModuleId) {body : Action Unit} (hbody : sound.Keeps body) {result : Except Failure Unit}
    (hrun : Action.attempt body (s.begun id m) = .ok result u) :
    (u.ended id m (.of result)).Sound ∧ SameRuns s (u.ended id m (.of result)) := by
  obtain ⟨hu, hsame⟩ := (Discipline.keeps_attempt hbody).ok (h.begun hc hm m) hrun
  -- this run is one of those that go on while the body runs
  have hruns : u.Runs id m := (hsame id m).1 (lastEvent?_begun s id m)
  refine ⟨hu.ended hruns _, fun other n => ?_⟩
  by_cases hid : id = other
  · subst hid
    have hended : ¬ (u.ended id m (.of result)).Runs id n := by simp [Runs]
    exact ⟨fun hs => absurd hs (h.not_runs hc hm), fun ht => absurd ht hended⟩
  · have hother := hsame other n
    rw [Runs, Runs, lastEvent?_begun_ne s m hid] at hother
    rw [Runs, Runs, lastEvent?_ended_ne u m _ hid]
    exact hother

/-! ## The making of a module -/

theorem sound_hosts : sound.Hosts where
  quiet _ _ _ hs := ⟨hs.congr rfl rfl rfl, .of_history rfl⟩
  unusable _ _ := trivial
  room _ := trivial
  ran {s s₁ t id c m body result} hs hc hm _ hnew hbody hrun := by
    obtain ⟨rfl, unit, made, rfl⟩ := Action.newUnitModule_eq_ok hnew
    have hs₁ : Sound { s with made, modules := s.modules ++ [unit] } := hs.congr rfl rfl rfl
    exact hs₁.ran hc hm s.modules.length hbody hrun

/-- **The making of a module keeps a session sound**, and so do all loads and calls. -/
theorem sound_materializes : sound.Materializes := sound_hosts.materializes

/-- What the making of a module hands out: the module that was there, or one in which the body has just
run to its end. -/
theorem materialize_ok {engine : Engine} (h : Loader.materialize engine id s = .ok m t) :
    (∃ c, s.contexts[id]? = some c ∧ c.module? = some m) ∧ t = s ∨
      t.lastEvent? id = some (.ended id m .completed) := by
  rcases Loader.making engine id s with ⟨-, -, hmake⟩ | ⟨hc, hm, hmake⟩ | ⟨-, -, -, hmake⟩ |
    ⟨-, -, -, hmake⟩ | ⟨-, -, -, -, -, -, hmake⟩
  · cases hmake.symm.trans h
  · cases hmake.symm.trans h
    exact .inl ⟨⟨_, hc, hm⟩, rfl⟩
  · cases hmake.symm.trans h
  · cases hmake.symm.trans h
  · obtain ⟨rfl, rfl, log, rfl⟩ := Loader.conclude_eq_ok (hmake.symm.trans h)
    exact .inr (lastEvent?_ended ..)

end Session

end UnitFoundry
