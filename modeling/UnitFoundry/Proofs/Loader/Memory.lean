import UnitFoundry.Backend.Scenario
import UnitFoundry.Proofs.Compiler.Cache

/-!
# What a load hands out

A context that holds a module gives it to every load. So what loads hand out is only as good as what
contexts hold. When nothing is going on, a context holds the module of the last run of its unit's body
if that run has completed, and none if it has failed, and is then loaded anew. But a run that was left,
by a body that asks to leave the program, leaves its module behind, too: the context holds it without
being ready, and every later load hands out a module of which only a part has run.

* `Session.RanToEnd`, `Session.WasLeft` — how the last run of a unit's body ended;
* `Session.Holds` — a context holds a module;
* `Session.HandsOut` — the ways in which a module of a context is handed out;
* `Reachable.holds_iff` — **what contexts hold and what is handed out**, run for run;
* `holds_unready` — a context that holds a module without being ready.
-/

namespace UnitFoundry.Session

open Script Text

/-- The last run of a unit's body was in a module, and completed. -/
def RanToEnd (s : Session) (id : ContextId) (m : ModuleId) : Prop :=
  s.lastEvent? id = some (.ended id m .completed)

/-- The last run of a unit's body was in a module, and was left. -/
def WasLeft (s : Session) (id : ContextId) (m : ModuleId) : Prop :=
  s.lastEvent? id = some (.ended id m .left)

instance (s : Session) (id : ContextId) (m : ModuleId) : Decidable (s.WasLeft id m) :=
  inferInstanceAs (Decidable (_ = _))

/-- A context holds a module. -/
def Holds (s : Session) (id : ContextId) (m : ModuleId) : Prop :=
  ∃ c : Context, s.contexts[id]? = some c ∧ c.module? = some m

/-- A context holds one module. -/
theorem Holds.unique {s : Session} {id : ContextId} {m n : ModuleId} (hm : s.Holds id m) (hn : s.Holds id n) :
    m = n := by
  obtain ⟨c, hc, hm⟩ := hm
  obtain ⟨d, hd, hn⟩ := hn
  obtain rfl := Option.some.inj (hc.symm.trans hd)
  exact Option.some.inj (hm.symm.trans hn)

/-- A module is handed out for a context: by a load of the context, by a load of a name that leads to it,
or by a compilation that finds its unit published. -/
inductive HandsOut (s : Session) (id : ContextId) (m : ModuleId) (t : Session) : Prop where
  | load (h : Loader.load id s = .ok m t)
  | loadActive (name : String) (hid : s.registry.find? name = some id)
      (h : Compiler.loadActive name s = .ok m t)
  | hit (backend : Backend) (name source : String)
      (hid : s.registry.lookup? (UnitName.canonical name) = some id)
      (hit : ∃ m t, Compiler.cached name s = .ok (some m) t)
      (h : Compiler.compile backend name source s = .ok m t)

variable {s t u : Session} {id : ContextId} {c : Context} {m : ModuleId}

/-! ## What contexts hold -/

/-- A context holds the module of the last run, unless this has failed. -/
theorem Sound.holds_iff_last (h : s.Sound) :
    s.Holds id m ↔ s.Runs id m ∨ s.RanToEnd id m ∨ s.WasLeft id m := by
  constructor
  · rintro ⟨c, hc, hm⟩
    have hafter := h.told id c hc
    unfold Runs RanToEnd WasLeft
    cases hlast : s.lastEvent? id with
    | none =>
      rw [hlast] at hafter
      exact absurd (hm.symm.trans hafter.1) (by simp)
    | some e =>
      obtain rfl := lastEvent?_context hlast
      rw [hlast] at hafter
      cases e with
      | begun id k =>
        obtain rfl := Option.some.inj (hm.symm.trans hafter.1)
        exact .inl rfl
      | ended id k how =>
        cases how with
        | completed =>
          obtain rfl := Option.some.inj (hm.symm.trans hafter.1)
          exact .inr (.inl rfl)
        | failed => exact absurd (hm.symm.trans hafter.1) (by simp)
        | left =>
          obtain rfl := Option.some.inj (hm.symm.trans hafter.1)
          exact .inr (.inr rfl)
  · rintro (hlast | hlast | hlast)
    all_goals
      obtain ⟨c, hc⟩ : ∃ c, s.contexts[id]? = some c :=
        ⟨_, List.getElem?_eq_getElem (h.known _ (lastEvent?_mem hlast))⟩
      have hafter := h.told id c hc
      rw [hlast] at hafter
      exact ⟨c, hc, hafter.1⟩

/-- When no body runs, a context holds the module of a run that completed or was left. -/
theorem Sound.module?_iff (h : s.Sound) (hrests : ∀ m, ¬ s.Runs id m)
    (hc : s.contexts[id]? = some c) : c.module? = some m ↔ s.RanToEnd id m ∨ s.WasLeft id m := by
  have hholds : s.Holds id m ↔ c.module? = some m := by
    constructor
    · rintro ⟨c', hc', hm⟩
      obtain rfl := Option.some.inj (hc.symm.trans hc')
      exact hm
    · exact fun hm => ⟨c, hc, hm⟩
  rw [← hholds, h.holds_iff_last]
  exact or_iff_right (hrests m)

/-- A context is ready exactly if the last run of its unit's body has completed. -/
theorem Sound.ready_iff (h : s.Sound) (hc : s.contexts[id]? = some c) :
    c.ready ↔ ∃ m, s.RanToEnd id m := by
  rw [(h.told id c hc).ready_iff]
  constructor
  · rintro ⟨other, m, hlast⟩
    obtain rfl := lastEvent?_context hlast
    exact ⟨m, hlast⟩
  · rintro ⟨m, hlast⟩
    exact ⟨id, m, hlast⟩

/-! ## What loads hand out -/

/-- A load from outside starts at the top of all nested loads. -/
theorem load_eq (h : Loader.load id s = .ok m t) :
    Loader.materialize (Loader.inside s) id s = .ok m t := by
  obtain ⟨result, u, hresult, h⟩ := Action.bind_eq_ok.1 h
  cases result with
  | ok n =>
    cases h
    unfold Action.attempt at hresult
    split at hresult
    · rename_i hload
      cases hresult
      exact hload
    · cases hresult
  | error f =>
    obtain ⟨g, v, -, h⟩ := Action.bind_eq_ok.1 h
    cases h

/-- What a load hands out: the module that the context held, or one in which the body has just run to its
end. -/
theorem load_ok (h : Loader.load id s = .ok m t) :
    (∃ c, s.contexts[id]? = some c ∧ c.module? = some m) ∧ t = s ∨ t.RanToEnd id m :=
  materialize_ok (load_eq h)

/-- The context holds what a load of it has handed out. -/
theorem Sound.holds_of_load (h : s.Sound) (hload : Loader.load id s = .ok m t) : t.Holds id m := by
  have ht : t.Sound := ((sound_materializes.keeps_load id).ok h hload).1
  rcases load_ok hload with ⟨hheld, rfl⟩ | hran
  · exact hheld
  · exact ht.holds_iff_last.2 (.inr (.inl hran))

/-- A context whose unit was left hands out the module that was left, as it is. -/
theorem Sound.load_of_wasLeft (h : s.Sound) (hrests : ∀ m, ¬ s.Runs id m) (hleft : s.WasLeft id m) :
    Loader.load id s = .ok m s := by
  obtain ⟨c, hc⟩ : ∃ c, s.contexts[id]? = some c := by
    have hknown := h.known _ (lastEvent?_mem hleft)
    exact ⟨_, List.getElem?_eq_getElem hknown⟩
  have hm : c.module? = some m := (h.module?_iff hrests hc).2 (.inr hleft)
  exact Loader.load_of_module hc hm

/-- Whatever hands out a module does so by a load of its context. -/
theorem HandsOut.exists_load (hs : s.Sound) (h : HandsOut s id m t) :
    ∃ u, Loader.load id s = .ok m u ∧ t.history = u.history := by
  cases h with
  | load h => exact ⟨t, h, rfl⟩
  | loadActive name hid h =>
    rw [Compiler.loadActive, Action.bind_ok (Action.find_apply name s), hid] at h
    exact ⟨t, h, rfl⟩
  | hit backend name source hid hit h =>
    obtain ⟨n, v, hcached⟩ := hit
    cases (Compiler.compile_of_cached backend source hcached).symm.trans h
    obtain ⟨u, log, hload, rfl⟩ := Compiler.load_of_cached hs hid hcached
    exact ⟨u, hload, rfl⟩

/-! ## Reachable sessions -/

/-- **What contexts hold, and what is handed out.** A context of a reachable session holds the module of
a run that completed, or of one that was left; it is ready in the first case only. What is handed out
for it has run to its end exactly if no run was left, and a run that was left is never repeated. -/
theorem Reachable.holds_iff (h : s.Reachable) :
    (∀ id c, s.contexts[id]? = some c →
      (∀ m, c.module? = some m ↔ s.RanToEnd id m ∨ s.WasLeft id m) ∧
        (c.ready ↔ ∃ m, s.RanToEnd id m)) ∧
    (∀ id m t, HandsOut s id m t → (t.RanToEnd id m ↔ ∀ n, ¬ s.WasLeft id n)) ∧
    ∀ id m, s.WasLeft id m → Loader.load id s = .ok m s := by
  have hstuck (id : ContextId) (m : ModuleId) (hleft : s.WasLeft id m) :
      Loader.load id s = .ok m s := h.sound.load_of_wasLeft (h.rests id) hleft
  refine ⟨fun id c hc => ⟨fun m => h.sound.module?_iff (h.rests id) hc, h.sound.ready_iff hc⟩, ?_,
    hstuck⟩
  intro id m t hout
  obtain ⟨u, hload, hhistory⟩ := hout.exists_load h.sound
  rw [RanToEnd, lastEvent?_of_history hhistory]
  constructor
  · intro hran n hleft
    -- the load has changed nothing, so the last run would have ended in both ways
    cases (hstuck id n hleft).symm.trans hload
    rw [WasLeft, hran] at hleft
    cases hleft
  · intro hleft
    rcases load_ok hload with ⟨⟨c, hc, hm⟩, rfl⟩ | hran
    · rcases (h.sound.module?_iff (h.rests id) hc).1 hm with hran | hwas
      · exact hran
      · exact absurd hwas (hleft m)
    · exact hran

/-! ## A body that is left -/

/-- A session in which the body of a unit has asked to leave the program. -/
def leaving : Session :=
  Session.performed {}
    [.openOutput none .classOutput "p.A_ts1" .artifact none,
      .write 0 (Scenario.artifactOf "p.A_ts1" "raise SystemExit\n"), .close 0, .load 0]

theorem leaving_reachable : leaving.Reachable := (Reachable.fresh isFresh_empty).performed _

theorem leaving_holds_iff : leaving.Reachable ∧
    ∀ m t, HandsOut leaving 0 m t → (t.RanToEnd 0 m ↔ ∀ n, ¬ leaving.WasLeft 0 n) :=
  ⟨leaving_reachable, (Reachable.holds_iff leaving_reachable).2.1 0⟩

theorem leaving_wasLeft : leaving.WasLeft 0 0 := by decide +kernel

/-- The context holds a module without being ready, and a load hands it out although its body was
left. -/
theorem holds_unready : leaving.Reachable ∧
    (∃ c, leaving.contexts[0]? = some c ∧ c.module? = some 0 ∧ c.ready = false) ∧
    ¬ leaving.RanToEnd 0 0 ∧ HandsOut leaving 0 0 leaving := by
  have hload : Loader.load 0 leaving = .ok 0 leaving :=
    leaving_reachable.sound.load_of_wasLeft (leaving_reachable.rests 0) leaving_wasLeft
  have hcontext : (leaving.contexts[0]?.map fun c => (c.module?, c.ready)) = some (some 0, false) := by
    decide +kernel
  obtain ⟨c, hc, heq⟩ := Option.map_eq_some_iff.1 hcontext
  refine ⟨leaving_reachable, ⟨c, hc, congrArg Prod.fst heq, congrArg Prod.snd heq⟩, ?_, .load hload⟩
  intro hran
  cases hran.symm.trans leaving_wasLeft

end UnitFoundry.Session
