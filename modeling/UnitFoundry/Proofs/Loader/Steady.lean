import UnitFoundry.Proofs.Loader.Imports
import UnitFoundry.Proofs.Loader.Untouched
import UnitFoundry.Proofs.Script.Frames
import UnitFoundry.Proofs.Session.Routes

/-!
# What imports are resolved by

Where the names of an import lead depends on the unit that imports, on the names of the contexts and on the
registry. No load changes any of these, so several imports one after the other are resolved as if the loads
between them had not been.

* `Session.Steady`, `steadying` — modules, names and registry as imports see them, as a discipline;
* `Steady.unitFrom?_eq` — **names lead where they led before**;
* `importInto_of_unit`, `importInto_of_none` — what an import statement gets.
-/

namespace UnitFoundry

open Script Text

namespace Session

variable {s t u : Session} {from_ : ContextId} {name : String}

/-- Names lead where they led before: the registry is the same, as are the contexts apart from what they hold,
and modules belong to the units they belonged to. -/
structure Steady (s t : Session) : Prop where
  registry : t.registry = s.registry
  archive : t.archive = s.archive
  owners : ∀ (id : ModuleId) (m : UnitModule), s.modules[id]? = some m →
    ∃ n : UnitModule, t.modules[id]? = some n ∧ n.owner = m.owner

namespace Steady

theorem refl (s : Session) : Steady s s := ⟨rfl, rfl, fun _ m hm => ⟨m, hm, rfl⟩⟩

theorem trans (hst : Steady s t) (htu : Steady t u) : Steady s u where
  registry := htu.registry.trans hst.registry
  archive := htu.archive.trans hst.archive
  owners id m hm := by
    obtain ⟨n, hn, howner⟩ := hst.owners id m hm
    obtain ⟨k, hk, howner'⟩ := htu.owners id n hn
    exact ⟨k, hk, howner'.trans howner⟩

/-- Nothing that names are resolved by has changed. -/
theorem of_modules (hr : t.registry = s.registry) (ha : t.archive = s.archive)
    (hm : t.modules = s.modules) : Steady s t :=
  ⟨hr, ha, fun _ m hget => ⟨m, hm ▸ hget, rfl⟩⟩

/-- A name is bound in a module. -/
theorem of_modify (s : Session) (id : ModuleId) (name : String) (value : Value)
    (assigned : List ModuleId) : Steady s { s with
      modules := s.modules.modify id fun m => { m with names := setEntry name value m.names }
      assigned } where
  registry := rfl
  archive := rfl
  owners other m hm := by
    by_cases hid : id = other
    · exact ⟨{ m with names := setEntry name value m.names }, by simp [hid, hm], rfl⟩
    · exact ⟨m, by simp [hid, hm], rfl⟩

theorem contexts (h : Steady s t) (id : ContextId) :
    (t.contexts[id]?).map (fun c => (c.qualified, c.artifact)) =
      (s.contexts[id]?).map fun c => (c.qualified, c.artifact) := by
  rw [← List.getElem?_map, ← List.getElem?_map]
  exact congrArg (·[id]?) h.archive

/-- **Names lead where they led before.** -/
theorem unitFrom?_eq (h : Steady s t) (from_ : ContextId) (name : String) :
    t.unitFrom? from_ name = s.unitFrom? from_ name := by
  have hcontexts := h.contexts from_
  unfold unitFrom?
  rw [h.registry]
  cases hc : s.contexts[from_]? with
  | none =>
    rw [hc] at hcontexts
    simp only [Option.map_none, Option.map_eq_none_iff] at hcontexts
    rw [hcontexts]
  | some c =>
    rw [hc] at hcontexts
    obtain ⟨d, hd, heq⟩ := Option.map_eq_some_iff.1 hcontexts
    have hqualified : d.qualified = c.qualified := congrArg Prod.fst heq
    rw [hd, Option.bind_some, Option.bind_some, hqualified, Context.canonical, hqualified]
    rfl

/-- A context that was there is there. -/
theorem exists_context (h : Steady s t) {id : ContextId} {c : Context} (hc : s.contexts[id]? = some c) :
    ∃ d, t.contexts[id]? = some d := by
  have hcontexts := h.contexts id
  rw [hc] at hcontexts
  obtain ⟨d, hd, -⟩ := Option.map_eq_some_iff.1 hcontexts
  exact ⟨d, hd⟩

end Steady

/-- To leave all that imports are resolved by as it is. -/
def steadying : Discipline where
  inv _ := True
  rel := Steady
  fails _ := True
  refl := .refl
  trans := .trans
  raised _ := trivial
  thrown _ _ := trivial
  own := by
    rintro s _ ⟨⟩ -
    · exact ⟨trivial, .of_modules rfl rfl rfl⟩
    · exact ⟨trivial, .of_modules rfl rfl rfl⟩
    · exact ⟨trivial, .of_modify s _ _ _ s.assigned⟩
    · exact ⟨trivial, .of_modify s _ _ _ _⟩

theorem steadying_loads : steadying.Loads where
  created id c := by
    refine .of_goes_on fun s _ => ?_
    obtain ⟨m, made, hnew⟩ := Action.newUnitModule_apply id c s
    refine ⟨{ s with made, modules := s.modules ++ [m] }, pure _, trivial, ⟨rfl, rfl, fun other n hn => ?_⟩,
      .pure _, hnew⟩
    exact ⟨n, (List.getElem?_append_left (List.getElem?_eq_some_iff.1 hn).1).trans hn, rfl⟩
  quiet _ _ _ _ := ⟨trivial, .of_modules rfl rfl rfl⟩
  begun id m := .of_ok (fun _ => ()) (fun s => s.begun id m) (fun _ => rfl) fun s _ =>
    ⟨trivial, .of_modules rfl (Loader.untouched_archive.begun s id m) rfl⟩
  ended id m how := .of_ok (fun _ => ()) (fun s => s.ended id m how) (fun _ => rfl) fun s _ =>
    ⟨trivial, .of_modules rfl (Loader.untouched_archive.ended s id m how) rfl⟩
  unusable _ _ := trivial
  room _ := trivial

/-- A load between imports. -/
theorem load_steady {engine : Engine} {id : ContextId} {m : ModuleId} (he : Loader.Level engine)
    (hload : engine.load id s = .ok m t) : s.Steady t :=
  (((he.governs steadying_loads.materializes).load id).ok trivial hload).2

end Session

/-! ## Import statements -/

namespace Script

variable {engine : Engine} {r : Running} {from_ id : ContextId} {c : Context} {name : String}
  {wanted : List String} {s : Session}

theorem Running.Within.steady (h : r.Within from_) (hs : r.session.Steady s) :
    Running.Within { r with session := s } from_ := by
  obtain ⟨m, hm, howner⟩ := h
  obtain ⟨n, hn, hsame⟩ := hs.owners _ m hm
  exact ⟨n, hn, hsame.trans howner⟩

/-- An import statement asks for its unit. -/
theorem importInto_apply (engine : Engine) (h : r.Within from_) (name : String) (wanted : List String) (level : Nat) :
    ∃ names, importInto engine name wanted level r =
      Run.lift (Import.importModule engine from_ names (privateName r.frame.owner name) wanted level) r := by
  obtain ⟨m, hm, rfl⟩ := h
  have hhome : Run.home r = .ok m r := Run.lift_ok (Action.module_some hm)
  refine ⟨m.names, ?_⟩
  rw [importInto, Run.bind_ok hhome, Run.bind_ok (Run.known_apply name r)]

/-- It gets the unit that the name leads to. -/
theorem importInto_of_unit (h : r.Within from_)
    (hunit : r.session.unitFrom? from_ (privateName r.frame.owner name) = some id) :
    importInto engine name wanted 0 r =
      Run.lift (Import.importUnit engine.load id (privateName r.frame.owner name) wanted) r := by
  obtain ⟨names, himport⟩ := importInto_apply engine h name wanted 0
  obtain ⟨c, hc, -⟩ := Option.bind_eq_some_iff.1 hunit
  have hmodule : Import.importModule engine from_ names (privateName r.frame.owner name) wanted 0 r.session =
      Import.importUnit engine.load id (privateName r.frame.owner name) wanted r.session := by
    rw [Import.importModule, if_neg (by decide), Action.bind_ok (Session.resolve_apply hc _), hunit]
  rw [himport, Run.lift, hmodule]
  rfl

/-- It gets something else if the name leads to no unit. -/
theorem importInto_of_none (h : r.Within from_) (hc : r.session.contexts[from_]? = some c)
    (hunit : r.session.unitFrom? from_ (privateName r.frame.owner name) = none) :
    importInto engine name wanted 0 r =
      Run.lift (Import.importOther engine.load from_ (privateName r.frame.owner name) wanted) r := by
  obtain ⟨names, himport⟩ := importInto_apply engine h name wanted 0
  have hmodule : Import.importModule engine from_ names (privateName r.frame.owner name) wanted 0 r.session =
      Import.importOther engine.load from_ (privateName r.frame.owner name) wanted r.session := by
    rw [Import.importModule, if_neg (by decide), Action.bind_ok (Session.resolve_apply hc _), hunit]
  rw [himport, Run.lift, hmodule]
  rfl

end Script

end UnitFoundry
