import UnitFoundry.Proofs.Session.History

/-!
# What imports get

An import gets the module of a unit from a load, and the load hands out a module that the unit's context
holds. In a cycle of imports this is the module of a body that still runs. If the body fails in the end, its
context gives the module up; but a unit that has imported it may have been loaded in the meantime, and keeps
it.

* `Loader.Level` — the engines with which imports are executed;
* `Session.Leads`, `Import.Gets` — the units a value leads to, and the values that imports get;
* `Sound.gets_held` — the units that an import gets are held by their contexts;
* `Reachable.imported` — **what becomes of them**;
* `abandoned_imported` — a loaded unit that has imported a module which was given up.
-/

namespace UnitFoundry

open Script Text

/-! ## What imports get -/

/-- The engines with which imports are executed: those of bodies, in loads so and so deep inside one
another, and those of what is called from outside. -/
inductive Loader.Level : Engine → Prop where
  | body (depth calls : Nat) : Level (callEngine (loaderWithin depth) calls)
  | outside (calls : Nat) :
    Level (callEngine (fun id s => loaderWithin (s.contexts.length + wordingLimit + 1) id s) calls)

namespace Loader.Level

variable {engine : Engine} {s t : Session} {id : ContextId} {m : ModuleId}

theorem load_eq (h : Level engine) (id : ContextId) (s : Session) :
    ∃ depth, engine.load id s = loaderWithin depth id s := by
  cases h with
  | body depth calls => cases calls <;> exact ⟨depth, rfl⟩
  | outside calls => cases calls <;> exact ⟨_, rfl⟩

theorem governs {d : Discipline} (h : Level engine) (hd : d.Materializes) : d.Governs engine := by
  cases h with
  | body depth calls => exact Discipline.governs_callEngine (hd.keeps_loaderWithin depth) calls
  | outside calls => exact Discipline.governs_callEngine hd.keeps_outside calls

/-- The module that a load hands out is held by the context. -/
theorem holds_of_load (h : Level engine) (hs : s.Sound) (hload : engine.load id s = .ok m t) :
    t.Sound ∧ t.Holds id m := by
  have ht := (((h.governs Session.sound_materializes).load id).ok hs hload).1
  refine ⟨ht, ?_⟩
  obtain ⟨depth, heq⟩ := h.load_eq id s
  rw [heq] at hload
  cases depth with
  | zero => cases hload
  | succ depth =>
    rcases Session.materialize_ok hload with ⟨hheld, rfl⟩ | hran
    · exact hheld
    · exact ht.holds_iff_last.2 (.inr (.inl hran))

end Loader.Level

/-- The modules of units that a value leads to: itself, or what is in a bundle. -/
inductive Session.Leads (s : Session) : Value → ModuleId → Prop where
  | module (m : ModuleId) : Leads s (.module m) m
  | bundle {id : ObjectId} {entries : List (String × Value)} {name : String} {value : Value} {m : ModuleId}
    (hid : s.objects[id]? = some (.bundle entries)) (hentry : lookupEntry name entries = some value)
    (h : Leads s value m) : Leads s (.object id) m

/-- What an import gets that is executed for a context: by a statement, or by a call of the importer. -/
inductive Import.Gets (engine : Engine) (from_ : ContextId) (s : Session) (value : Value) (t : Session) :
    Prop where
  | statement (names : List (String × Value)) (name : String) (wanted : List String) (level : Nat)
    (h : importModule engine from_ names name wanted level s = .ok value t)
  | call (arguments : List Value) (h : callImporter engine from_ arguments s = .ok value t)

namespace Session

variable {engine : Engine} {s t u : Session} {id from_ : ContextId} {m n : ModuleId} {value : Value}
  {entries found : List (String × Value)}

/-- All values under some names are modules that contexts hold. -/
def HoldsAll (s : Session) (entries : List (String × Value)) : Prop :=
  ∀ name value, lookupEntry name entries = some value → ∃ m id, value = .module m ∧ s.Holds id m

theorem HoldsAll.set (h : s.HoldsAll entries) (hm : s.Holds id m) (name : String) :
    s.HoldsAll (setEntry name (.module m) entries) := by
  intro other value hlookup
  rw [lookupEntry_setEntry] at hlookup
  split at hlookup
  · exact ⟨m, id, (Option.some.inj hlookup).symm, hm⟩
  · exact h other value hlookup

theorem HoldsAll.advances (h : s.HoldsAll entries) (hs : s.Sound) (ht : t.Sound)
    (hst : Advances s t) : t.HoldsAll entries := by
  intro name value hlookup
  obtain ⟨m, id, rfl, hm⟩ := h name value hlookup
  exact ⟨m, id, rfl, hm.advances hs ht hst⟩

/-- A bundle of modules that contexts hold leads to no others. -/
theorem HoldsAll.of_newObject (h : s.HoldsAll entries)
    (hnew : Action.newObject (.bundle entries) s = .ok value t) (hn : t.Leads value n) :
    ∃ id, t.Holds id n := by
  cases hnew
  cases hn with
  | bundle hid hentry hleads =>
    have hbundle := hid.symm.trans Array.getElem?_push_size
    obtain rfl := Object.bundle.inj (Option.some.inj hbundle)
    obtain ⟨m, id, rfl, hm⟩ := h _ _ hentry
    cases hleads
    exact ⟨id, hm⟩

/-- The bundles around a module lead to this module only. -/
theorem leads_nestParts {parts : List String}
    (h : Import.nestParts (.module m) parts s = .ok value t)
    (hsame : ∀ (i : ObjectId) (o : Object), t.objects[i]? = some o → u.objects[i]? = some o)
    (hn : u.Leads value n) : n = m := by
  induction parts generalizing value t with
  | nil =>
    cases h
    cases hn
    rfl
  | cons part rest ih =>
    obtain ⟨_, s₁, hsettable, hrest⟩ := Action.bind_eq_ok.1 h
    obtain ⟨-, rfl⟩ := Action.ofExcept_eq_ok.1 hsettable
    obtain ⟨inner, t₁, hinner, hnew⟩ := Action.bind_eq_ok.1 hrest
    cases hnew
    cases hn with
    | bundle hid hentry hleads =>
      have hbundle := hid.symm.trans (hsame _ _ Array.getElem?_push_size)
      obtain rfl := Object.bundle.inj (Option.some.inj hbundle)
      obtain ⟨entry, hfind, rfl⟩ := Option.map_eq_some_iff.1 hentry
      obtain rfl := List.mem_singleton.1 (List.mem_of_find?_eq_some hfind)
      refine ih hinner (fun i o hi => hsame i o ?_) hleads
      obtain ⟨hlt, rfl⟩ := Array.getElem?_eq_some_iff.1 hi
      exact Array.getElem?_push_lt hlt

theorem Sound.nest_held (hs : s.Sound) (hheld : s.Holds id m) {name : String}
    (hnest : Import.nest name (.module m) s = .ok value t) (hn : t.Leads value n) :
    ∃ id, t.Holds id n := by
  obtain ⟨ht, hst⟩ := (Discipline.keeps_nest (d := advancing) name (.module m)).ok hs hnest
  obtain rfl := leads_nestParts hnest (fun _ _ hi => hi) hn
  exact ⟨id, hheld.advances hs ht hst⟩

/-! ## Imports by statements -/

section

variable (he : Loader.Level engine)

include he

/-- A load inside an import: what contexts hold they go on holding, and the module that is handed out is
held. -/
theorem Sound.load_advances (hs : s.Sound) (hload : engine.load id s = .ok m t) :
    t.Sound ∧ Advances s t ∧ t.Holds id m := by
  obtain ⟨ht, hheld⟩ := he.holds_of_load hs hload
  exact ⟨ht, (((he.governs advancing_hosts.materializes).load id).ok hs hload).2, hheld⟩

theorem Sound.members_held {package : String} {wanted : List String} (hs : s.Sound)
    (hfound : s.HoldsAll found)
    (h : Import.members engine.load from_ package wanted found s = .ok (some entries) t) :
    t.HoldsAll entries := by
  induction wanted generalizing found s with
  | nil =>
    cases h
    exact hfound
  | cons item rest ih =>
    obtain ⟨target, s₁, hresolve, h⟩ := Action.bind_eq_ok.1 h
    obtain ⟨hs₁, hadvanced⟩ := (Discipline.keeps_resolve (d := advancing) ..).ok hs hresolve
    cases target with
    | none => cases h
    | some id =>
      obtain ⟨m, s₂, hload, h⟩ := Action.bind_eq_ok.1 h
      obtain ⟨hs₂, hloaded, hheld⟩ := hs₁.load_advances he hload
      have hkept := hfound.advances hs hs₂ (hadvanced.trans hloaded)
      exact ih hs₂ (hkept.set hheld item) h

theorem Sound.importUnit_held {name : String} {wanted : List String} (hs : s.Sound)
    (h : Import.importUnit engine.load id name wanted s = .ok value t) (hn : t.Leads value n) :
    ∃ id, t.Holds id n := by
  obtain ⟨m, s₁, hload, h⟩ := Action.bind_eq_ok.1 h
  obtain ⟨hs₁, -, hheld⟩ := hs.load_advances he hload
  split at h
  · exact hs₁.nest_held hheld h hn
  · cases h
    cases hn
    exact ⟨id, hheld⟩

theorem Sound.importOther_held {name : String} {wanted : List String} (hs : s.Sound)
    (h : Import.importOther engine.load from_ name wanted s = .ok value t) (hn : t.Leads value n) :
    ∃ id, t.Holds id n := by
  have hlibrary {s₁ : Session} (h : (do
      pure (.library (← ofExcept (Import.importLibrary "" name (!wanted.isEmpty) 0))) : Action Value) s₁ =
        .ok value t) : False := by
    obtain ⟨library, s₂, -, h⟩ := Action.bind_eq_ok.1 h
    cases h
    cases hn
  unfold Import.importOther at h
  dsimp only at h
  split at h
  · exact (hlibrary h).elim
  · obtain ⟨listed, s₁, hlisted, h⟩ := Action.bind_eq_ok.1 h
    cases listed with
    | some entries =>
      have hnone : s.HoldsAll [] := fun _ _ hlookup => nomatch hlookup
      exact (hs.members_held he hnone hlisted).of_newObject h hn
    | none => exact (hlibrary h).elim

theorem Sound.importModule_held {names : List (String × Value)} {name : String} {wanted : List String}
    {level : Nat} (hs : s.Sound)
    (h : Import.importModule engine from_ names name wanted level s = .ok value t)
    (hn : t.Leads value n) : ∃ id, t.Holds id n := by
  unfold Import.importModule at h
  split at h
  · obtain ⟨package, s₁, -, h⟩ := Action.bind_eq_ok.1 h
    obtain ⟨library, s₂, -, h⟩ := Action.bind_eq_ok.1 h
    cases h
    cases hn
  obtain ⟨target, s₁, hresolve, h⟩ := Action.bind_eq_ok.1 h
  have hs₁ := ((Discipline.keeps_resolve (d := advancing) ..).ok hs hresolve).1
  cases target with
  | some id => exact hs₁.importUnit_held he h hn
  | none => exact hs₁.importOther_held he h hn

/-! ## Imports by calls -/

theorem Sound.importMembers_held {package : String} {items : List Value}
    {members : List (Value × ModuleId)} (hs : s.Sound)
    (h : importMembers engine from_ package items s = .ok (some members) t) :
    ∀ p ∈ members, ∃ id, t.Holds id p.2 := by
  induction items generalizing s members with
  | nil =>
    cases h
    simp
  | cons item rest ih =>
    have hgoverns := he.governs advancing_hosts.materializes
    obtain ⟨name, s₁, hname, h⟩ := Action.bind_eq_ok.1 h
    have hs₁ := ((Discipline.keeps_plain hgoverns item).ok hs hname).1
    obtain ⟨target, s₂, hresolve, h⟩ := Action.bind_eq_ok.1 h
    have hs₂ := ((Discipline.keeps_resolve (d := advancing) ..).ok hs₁ hresolve).1
    cases target with
    | none => cases h
    | some id =>
      obtain ⟨m, s₃, hload, h⟩ := Action.bind_eq_ok.1 h
      obtain ⟨hs₃, -, hheld⟩ := hs₂.load_advances he hload
      obtain ⟨others, s₄, hothers, h⟩ := Action.bind_eq_ok.1 h
      obtain ⟨hs₄, hadvanced⟩ := (Discipline.keeps_importMembers hgoverns ..).ok hs₃ hothers
      cases others with
      | none => cases h
      | some others =>
        cases h
        intro p hp
        rcases List.mem_cons.1 hp with rfl | hp
        · exact ⟨id, hheld.advances hs₃ hs₄ hadvanced⟩
        · exact ih hs₃ hothers p hp

omit he in
/-- Modules that contexts hold are listed, each under some name. -/
theorem HoldsAll.foldlM {step : List (String × Value) → Value × ModuleId → Action (List (String × Value))}
    (hstep : ∀ before p s after t, step before p s = .ok after t →
      t = s ∧ ∃ name, after = setEntry name (.module p.2) before)
    {members : List (Value × ModuleId)} (hfound : s.HoldsAll found)
    (hmembers : ∀ p ∈ members, ∃ id, s.Holds id p.2)
    (h : members.foldlM step found s = .ok entries t) : t.HoldsAll entries := by
  induction members generalizing found s with
  | nil =>
    cases h
    exact hfound
  | cons p rest ih =>
    rw [List.foldlM_cons] at h
    obtain ⟨after, s₁, hfirst, h⟩ := Action.bind_eq_ok.1 h
    obtain ⟨rfl, name, rfl⟩ := hstep _ _ _ _ _ hfirst
    obtain ⟨id, hheld⟩ := hmembers p List.mem_cons_self
    exact ih (hfound.set hheld name) (fun q hq => hmembers q (List.mem_cons_of_mem p hq)) h

omit he in
theorem bundleOf_held {members : List (Value × ModuleId)} (hmembers : ∀ p ∈ members, ∃ id, s.Holds id p.2)
    (h : bundleOf members s = .ok value t) (hn : t.Leads value n) : ∃ id, t.Holds id n := by
  obtain ⟨entries, s₁, hentries, h⟩ := Action.bind_eq_ok.1 h
  have hnone : s.HoldsAll [] := fun _ _ hlookup => nomatch hlookup
  refine (HoldsAll.foldlM (fun before p s after t hfirst => ?_) hnone hmembers hentries).of_newObject h hn
  obtain ⟨name, m⟩ := p
  cases name with
  | text name _ =>
    cases hfirst
    exact ⟨rfl, name, rfl⟩
  | _ => cases hfirst

omit he in
/-- Modules that are no units lead to none. -/
theorem importLibraryValue_leads {name globals level : Value} {listed : Option Value}
    (h : importLibraryValue engine name globals listed level s = .ok value t) : ¬ t.Leads value n := by
  obtain ⟨steps, s₁, -, h⟩ := Action.bind_eq_ok.1 h
  cases name with
  | text name _ =>
    dsimp only at h
    split at h
    · cases h
    · obtain ⟨package, s₂, -, h⟩ := Action.bind_eq_ok.1 h
      obtain ⟨isWanted, s₃, -, h⟩ := Action.bind_eq_ok.1 h
      obtain ⟨library, s₄, -, h⟩ := Action.bind_eq_ok.1 h
      split at h
      · obtain ⟨-, s₅, -, h⟩ := Action.bind_eq_ok.1 h
        cases h
        exact fun hn => nomatch hn
      · cases h
        exact fun hn => nomatch hn
  | _ => cases h

theorem Sound.importNamed_held {name : Value} {listed : Option Value} {otherwise : Action Value}
    (hs : s.Sound) (hotherwise : ∀ s t value, otherwise s = .ok value t → ¬ t.Leads value n)
    (h : importNamed engine from_ name listed otherwise s = .ok value t) (hn : t.Leads value n) :
    ∃ id, t.Holds id n := by
  have hgoverns := he.governs advancing_hosts.materializes
  obtain ⟨target, s₁, hresolve, h⟩ := Action.bind_eq_ok.1 h
  have hs₁ := ((Discipline.keeps_resolveValue hgoverns ..).ok hs hresolve).1
  cases target with
  | some id =>
    obtain ⟨m, s₂, hload, h⟩ := Action.bind_eq_ok.1 h
    obtain ⟨hs₂, -, hheld⟩ := hs₁.load_advances he hload
    obtain ⟨wants, s₃, hwants, h⟩ := Action.bind_eq_ok.1 h
    obtain ⟨hs₃, hadvanced⟩ := (Discipline.keeps_wantsNames hgoverns listed).ok hs₂ hwants
    have hheld₃ := hheld.advances hs₂ hs₃ hadvanced
    cases wants with
    | true =>
      cases h
      cases hn
      exact ⟨id, hheld₃⟩
    | false =>
      obtain ⟨text, s₄, hplain, h⟩ := Action.bind_eq_ok.1 h
      obtain ⟨hs₄, hadvanced⟩ := (Discipline.keeps_plain hgoverns name).ok hs₃ hplain
      exact hs₄.nest_held (hheld₃.advances hs₃ hs₄ hadvanced) h hn
  | none =>
    obtain ⟨wanted, s₂, hwanted, h⟩ := Action.bind_eq_ok.1 h
    have hs₂ := ((Discipline.keeps_wantedNames hgoverns listed).ok hs₁ hwanted).1
    split at h
    · exact absurd hn (hotherwise _ _ _ h)
    · obtain ⟨text, s₃, hplain, h⟩ := Action.bind_eq_ok.1 h
      have hs₃ := ((Discipline.keeps_plain hgoverns name).ok hs₂ hplain).1
      obtain ⟨members, s₄, hmembers, h⟩ := Action.bind_eq_ok.1 h
      cases members with
      | some members => exact bundleOf_held (hs₃.importMembers_held he hmembers) h hn
      | none => exact absurd hn (hotherwise _ _ _ h)

theorem Sound.callImporter_held {arguments : List Value} (hs : s.Sound)
    (h : callImporter engine from_ arguments s = .ok value t) (hn : t.Leads value n) :
    ∃ id, t.Holds id n := by
  cases arguments with
  | nil => cases h
  | cons name rest =>
    unfold callImporter at h
    dsimp only at h
    split at h
    · cases h
    · obtain ⟨isAbsolute, s₁, habsolute, h⟩ := Action.bind_eq_ok.1 h
      have hs₁ := ((Discipline.keeps_isEqual (he.governs advancing_hosts.materializes) ..).ok hs habsolute).1
      cases isAbsolute with
      | true => exact hs₁.importNamed_held he (fun _ _ _ => importLibraryValue_leads) h hn
      | false => exact absurd hn (importLibraryValue_leads h)

/-- **The units that an import gets are held by their contexts** when it has been executed. -/
theorem Sound.gets_held (h : Import.Gets engine from_ s value t) (hs : s.Sound)
    (hn : t.Leads value n) : t.Sound ∧ ∃ id, t.Holds id n := by
  have hgoverns := he.governs sound_materializes
  cases h with
  | statement names name wanted level h =>
    exact ⟨((Discipline.keeps_importModule hgoverns ..).ok hs h).1, hs.importModule_held he h hn⟩
  | call arguments h =>
    exact ⟨((Discipline.keeps_callImporter hgoverns ..).ok hs h).1, hs.callImporter_held he h hn⟩

end

/-! ## What becomes of what is imported -/

/-- **What becomes of imported units.** The module of a unit that an import gets is held by its context
when the import has been executed, so no import gets a module whose body has failed. Whenever nothing goes
on any more, a unit is loaded in it, exactly unless the import was executed in a cycle, while the body ran
in this module, and the run has failed. Bodies that ask to leave the program are another matter. -/
theorem Reachable.imported (h : s.Reachable) (he : Loader.Level engine) (ht : t.Sound)
    (hgets : Import.Gets engine from_ t value u) (hn : u.Leads value n)
    (hlater : u.history <+: s.history) :
    ∃ id, u.Holds id n ∧ (¬ s.WasLeft id n →
      (s.IsLoaded n ↔ ¬ (u.Runs id n ∧ .ended id n .failed ∈ s.history))) := by
  obtain ⟨hu, id, hheld⟩ := ht.gets_held he hgets hn
  exact ⟨id, hheld, h.isLoaded_iff hu hlater hheld⟩

/-! ## A module that was given up -/

/-- Two units that import each other, of which the first fails. -/
def failing : Session :=
  holdingUnits [("p.A_ts1", "import p.B as b\nraise Exception\n"), ("p.B_ts1", "import p.A as a\n")]

/-- The session after a load of the unit that fails. -/
def abandoned : Session := failing.performed [.load 0]

/-- The first unit's body runs, and inside it the second one's. -/
def crossing : Session := (failing.begun 0 0).begun 1 1

theorem abandoned_reachable : abandoned.Reachable := (holdingUnits_reachable _).performed _

/-- The first body has failed, the second one has completed and keeps what it has imported. -/
theorem abandoned_outcome : abandoned.history =
      [.begun 0 0, .begun 1 1, .ended 1 1 .completed, .ended 0 0 .failed] ∧
    abandoned.contexts.map (fun c => (c.module?, c.ready)) = [(none, false), (some 1, true)] ∧
    (abandoned.modules[1]?.bind (·.get? "a")) = some (.module 0) ∧ abandoned.assigned = [] := by
  decide +kernel

theorem crossing_sound : crossing.Sound := by
  have hsound : failing.Sound := (holdingUnits_reachable _).sound
  have hfirst : failing.contexts[0]?.map (·.module?) = some none := by decide +kernel
  have hsecond : (failing.begun 0 0).contexts[1]?.map (·.module?) = some none := by decide +kernel
  obtain ⟨a, ha, hnone⟩ := Option.map_eq_some_iff.1 hfirst
  obtain ⟨b, hb, hnone'⟩ := Option.map_eq_some_iff.1 hsecond
  exact (hsound.begun ha hnone 0).begun hb hnone' 1

/-- What the second unit imports while the first one's body runs, with the history afterwards. -/
theorem crossing_imports : (do
    let value ← Import.importModule (Loader.callEngine (Loader.loaderWithin 1) 0) 1 [] "p.A" ["x"] 0
    pure (value, (← get).history) : Action (Value × List Event)).run' crossing =
      some (.module 0, [.begun 0 0, .begun 1 1]) := by
  decide +kernel

theorem crossing_imported : abandoned.Reachable ∧ crossing.Sound ∧
    ∃ u, Import.Gets (Loader.callEngine (Loader.loaderWithin 1) 0) 1 crossing (.module 0) u ∧
      u.history <+: abandoned.history ∧ ∃ id, u.Holds id 0 ∧ (¬ abandoned.WasLeft id 0 →
        (abandoned.IsLoaded 0 ↔ ¬ (u.Runs id 0 ∧ .ended id 0 .failed ∈ abandoned.history))) := by
  obtain ⟨t, hrun⟩ := Action.exists_of_run crossing_imports
  obtain ⟨value, u, himport, hread⟩ := Action.bind_eq_ok.1 hrun
  rw [Action.bind_ok (Action.get_apply u)] at hread
  injection hread with hpair _
  obtain ⟨rfl, hhistory⟩ := Prod.mk.inj hpair
  have hgets : Import.Gets (Loader.callEngine (Loader.loaderWithin 1) 0) 1 crossing (.module 0) u :=
    .statement [] "p.A" ["x"] 0 himport
  have hlater : u.history <+: abandoned.history := by
    rw [hhistory, abandoned_outcome.1]
    exact ⟨_, rfl⟩
  exact ⟨abandoned_reachable, crossing_sound, u, hgets, hlater,
    Reachable.imported abandoned_reachable (.body 1 0) crossing_sound hgets (.module 0) hlater⟩

/-- The second unit is loaded, and has imported a module in which no unit is loaded. -/
theorem abandoned_imported : abandoned.Reachable ∧ (∀ id m, ¬ abandoned.Runs id m) ∧
    abandoned.assigned = [] ∧ abandoned.IsLoaded 1 ∧
    (abandoned.modules[1]?.bind (·.get? "a")) = some (.module 0) ∧ ¬ abandoned.IsLoaded 0 := by
  obtain ⟨-, hcontexts, hnames, hassigned⟩ := abandoned_outcome
  refine ⟨abandoned_reachable, abandoned_reachable.rests, hassigned, ?_, hnames, ?_⟩
  · have hsecond : abandoned.contexts[1]?.map (fun c => (c.module?, c.ready)) = some (some 1, true) := by
      rw [← List.getElem?_map, hcontexts]
      rfl
    obtain ⟨c, hc, heq⟩ := Option.map_eq_some_iff.1 hsecond
    exact ⟨1, c, hc, congrArg Prod.fst heq, congrArg Prod.snd heq⟩
  · rintro ⟨id, c, hc, hm, hready⟩
    have hmem := List.mem_map_of_mem (f := fun c => (c.module?, c.ready)) (List.mem_of_getElem? hc)
    rw [hcontexts, hm, hready] at hmem
    simp at hmem

end Session

end UnitFoundry
