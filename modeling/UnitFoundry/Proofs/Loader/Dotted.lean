import UnitFoundry.Proofs.Loader.Steady
import UnitFoundry.Proofs.Script.Namespaces

/-!
# Dotted names after several imports

A plain import of a unit binds the first component of its name to namespaces made for this import alone. If
several names begin with the same component, only the last import of them is left: the names before it cannot be
found any more, unless they go on with attributes of the module that was imported last.

* `importPlain`, `executeAll_importStatements` — plain imports, one after the other;
* `Stands` — what a plain import leaves behind, and `importPlain_one` — that it does;
* `Undisturbed` — no body that is run meanwhile writes into the names or namespaces;
* `stands_of_importPlain` — the last import stands;
* `evaluate_dotted_iff` — **which dotted names can be evaluated**.
-/

namespace UnitFoundry.Script

open Text

variable {engine : Engine} {r q : Running} {s t : Session} {from_ id : ContextId} {m n : ModuleId}
  {name last component : String} {names rest : List String}

/-! ## Plain imports -/

/-- Plain imports, one after the other. -/
def importPlain (engine : Engine) (names : List String) : Run Unit :=
  runImport engine (.modules (names.map fun name => (name, none)))

theorem importPlain_cons (engine : Engine) (name : String) (rest : List String) :
    importPlain engine (name :: rest) = (do
      importPlain engine [name]
      importPlain engine rest) := by
  simp [importPlain, runImport, importModules]

/-- The statements that import one name each, in some lines. -/
def importStatements (numbered : List (Nat × String)) : List Statement :=
  numbered.map fun (line, name) => .importing line (.modules [(name, none)])

theorem executeAll_importStatements (engine : Engine) (numbered : List (Nat × String)) :
    executeAll engine (importStatements numbered) = (do
      importPlain engine (numbered.map (·.2))
      pure none) := by
  induction numbered with
  | nil => rfl
  | cons first rest ih =>
    obtain ⟨line, name⟩ := first
    rw [importStatements, List.map_cons, List.map_cons, importPlain_cons, bind_assoc, executeAll, execute, ← ih]
    simp [importPlain, importStatements]

/-- The last of some names that begin with a component. -/
def lastUnder (component : String) (names : List String) : Option String :=
  names.reverse.find? (UnitName.top · = component)

theorem lastUnder_cons (component name : String) (rest : List String) :
    lastUnder component (name :: rest) =
      (lastUnder component rest).or (if UnitName.top name = component then some name else none) := by
  by_cases hname : UnitName.top name = component <;> simp [lastUnder, List.find?_append, hname]

/-! ## What one import leaves behind -/

/-- The first component of a name is bound to namespaces that lead to a module along the other parts. -/
def Stands (r : Running) (name : String) (m : ModuleId) : Prop :=
  ∃ value, r.bound? (UnitName.top name) = some value ∧
    Nested r.session value (pieces '.' name).tail (.module m)

/-- The names of a module and all namespaces are the same. -/
structure Spares (home : ModuleId) (s t : Session) : Prop where
  names : ∀ name : String, t.modules[home]?.bind (·.get? name) = s.modules[home]?.bind (·.get? name)
  bundles : ∀ (id : ObjectId) (entries : List (String × Value)),
    s.objects[id]? = some (Object.bundle entries) → t.objects[id]? = some (Object.bundle entries)

theorem Spares.refl (home : ModuleId) (s : Session) : Spares home s s := ⟨fun _ => rfl, fun _ _ h => h⟩

/-- What stands goes on standing if names and namespaces are the same. -/
theorem Stands.spares (h : Stands r name m) (hbody : r.IsBody from_) (hs : Spares r.frame.home r.session s) :
    Stands { r with session := s } name m := by
  obtain ⟨value, hbound, hnested⟩ := h
  refine ⟨value, ?_, hnested.mono hs.bundles⟩
  simp only [Running.bound?, hbody.kind] at hbound ⊢
  rw [hs.names, hbound]

/-- The body of a unit, from which some names lead to units. -/
structure Ready (r : Running) (from_ : ContextId) (names : List String) : Prop where
  sound : r.session.Sound
  body : r.IsBody from_
  units : ∀ name ∈ names, (r.session.unitFrom? from_ name).isSome

/-- The body of a unit as it begins. -/
theorem Ready.of_home {home : ModuleId} (hs : s.Sound) (howner : s.modules[home]?.map (·.owner) = some from_)
    (hunits : ∀ name ∈ names, (s.unitFrom? from_ name).isSome) :
    Ready { session := s, frame := { home } } from_ names where
  sound := hs
  body := ⟨Option.map_eq_some_iff.1 howner, rfl, rfl, rfl, rfl⟩
  units := hunits

/-- An import of a name: the unit that is loaded for it, the session that the load leaves behind, and what is
bound then. -/
structure Imported (engine : Engine) (from_ : ContextId) (name : String) (r : Running) (id : ContextId)
    (m : ModuleId) (s : Session) (q : Running) : Prop where
  unit : r.session.unitFrom? from_ name = some id
  load : engine.load id r.session = .ok m s
  held : q.session.Holds id m
  stands : Stands q name m
  others : ∀ other k, UnitName.top other ≠ UnitName.top name → Stands { r with session := s } other k →
    Stands q other k

section Binding

variable {objects : Array Object} {value : Value}
  (h : Running.IsBody { r with session := { s with objects } } from_)

include h

theorem stands_binding (hnested : Nested { s with objects } value (pieces '.' name).tail (.module m)) :
    Stands (Running.binding { r with session := { s with objects } } (UnitName.top name) value) name m := by
  refine ⟨value, Running.bound?_binding_self h.within _ _, hnested.mono ?_⟩
  rw [Running.binding_objects]
  exact fun _ _ hid => hid

theorem Stands.binding {other : String} (hother : UnitName.top other ≠ UnitName.top name)
    (hkeeps : s.KeepsObjects { s with objects }) (hstands : Stands { r with session := s } other m) :
    Stands (Running.binding { r with session := { s with objects } } (UnitName.top name) value) other m := by
  obtain ⟨bound, hbound, hnested⟩ := hstands
  refine ⟨bound, ?_, hnested.mono ?_⟩
  · rw [Running.bound?_binding h.within, h.outside, privateName_outside, privateName_outside, if_neg hother]
    exact hbound
  · rw [Running.binding_objects]
    exact fun id entries hid => hkeeps id _ hid

end Binding

section

variable (he : Loader.Level engine)

include he

/-- What imports keep to. -/
theorem importPlain_keeps (hs : r.session.Sound) (himport : importPlain engine names r = .ok ⟨⟩ q) :
    q.session.Sound ∧ Session.Advances r.session q.session ∧ r.session.Steady q.session := by
  have hadvancing := Discipline.keeps_runImport (d := Session.advancing)
    (he.governs Session.advancing_hosts.materializes) (.modules (names.map fun name => (name, none)))
  have hsteadying := Discipline.keeps_runImport (d := Session.steadying)
    (he.governs Session.steadying_loads.materializes) (.modules (names.map fun name => (name, none)))
  obtain ⟨⟨ht, -⟩, hadvanced⟩ := hadvancing.ok ⟨hs, fun _ _ => trivial, fun _ => trivial⟩ himport
  obtain ⟨-, hsteady⟩ := hsteadying.ok ⟨trivial, fun _ _ => trivial, fun _ => trivial⟩ himport
  exact ⟨ht, hadvanced, hsteady⟩

/-- **What one import does**: it loads the unit, makes namespaces and binds the first component. -/
theorem Ready.step (h : Ready r from_ (name :: rest)) (himport : importPlain engine [name] r = .ok ⟨⟩ q) :
    (∃ id m s, Imported engine from_ name r id m s q) ∧ Ready q from_ rest := by
  have hknown : privateName r.frame.owner name = name := by rw [h.body.outside, privateName_outside]
  have hstep : importPlain engine [name] r = (do
      let value ← importInto engine name [] 0
      Run.bind (UnitName.top name) value : Run Unit) r := by
    simp [importPlain, runImport, importModules]
  obtain ⟨id, hid⟩ := Option.isSome_iff_exists.1 (h.units name List.mem_cons_self)
  obtain ⟨hq, -, hsteady⟩ := importPlain_keeps he h.sound himport
  rw [hstep] at himport
  obtain ⟨value, r₁, hinto, hbind⟩ := Run.bind_eq_ok.1 himport
  rw [importInto_of_unit h.body.within (by rwa [hknown]), hknown] at hinto
  obtain ⟨s₁, hunit, rfl⟩ := Run.lift_eq_ok.1 hinto
  obtain ⟨m, s, hload, hnest⟩ := Action.bind_eq_ok.1 hunit
  obtain ⟨⟨objects, rfl⟩, hkeeps, hnested⟩ := nestParts_eq_ok hnest
  rw [Running.bind_apply] at hbind
  cases hbind
  obtain ⟨-, -, c, hc, hm⟩ := h.sound.load_advances he hload
  have hbody : Running.IsBody { r with session := { s with objects } } from_ :=
    h.body.of_frame rfl (h.body.within.steady ((Session.load_steady he hload).trans (.of_modules rfl rfl rfl)))
  refine ⟨⟨id, m, s, hid, hload, ⟨c, ?_, hm⟩, stands_binding hbody hnested,
    fun other k hother hstands => hstands.binding hbody hother hkeeps⟩, hq, ?_, fun later hlater => ?_⟩
  · unfold Running.binding
    rwa [hbody.kind]
  · exact hbody.of_frame (hbody.frame_binding _ _) (hbody.within.binding _ _)
  · rw [hsteady.unitFrom?_eq]
    exact h.units later (List.mem_cons_of_mem name hlater)

end

/-! ## Several imports -/

/-- While units are loaded for plain imports, nothing writes into the names of the importing body or into a
namespace. -/
def Undisturbed (engine : Engine) (from_ : ContextId) : List String → Running → Prop
  | [], _ => True
  | name :: rest, r =>
    (∀ id m s, r.session.unitFrom? from_ name = some id → engine.load id r.session = .ok m s →
      Spares r.frame.home r.session s) ∧
    ∀ q, importPlain engine [name] r = .ok ⟨⟩ q → Undisturbed engine from_ rest q

section

variable (he : Loader.Level engine)

include he

/-- A unit that is loaded is not loaded again. -/
theorem load_of_holds (hheld : s.Holds id m) (hload : engine.load id s = .ok n t) : t = s := by
  obtain ⟨c, hc, hm⟩ := hheld
  obtain ⟨depth, heq⟩ := he.load_eq id s
  rw [heq] at hload
  cases depth with
  | zero => cases hload
  | succ depth =>
    rw [Loader.loaderWithin, Loader.materialize_of_module _ hc hm] at hload
    cases hload
    rfl

/-- **Imports of units that are loaded** run nothing that could write anywhere. -/
theorem undisturbed_of_holds (h : Ready r from_ names)
    (hunits : ∀ name ∈ names, ∃ id m, r.session.unitFrom? from_ name = some id ∧ r.session.Holds id m) :
    Undisturbed engine from_ names r := by
  induction names generalizing r with
  | nil => trivial
  | cons name rest ih =>
    obtain ⟨id, m, hid, hheld⟩ := hunits name List.mem_cons_self
    refine ⟨fun other n s hother hload => ?_, fun q himport => ?_⟩
    · obtain rfl := Option.some.inj (hid.symm.trans hother)
      rw [load_of_holds he hheld hload]
      exact .refl ..
    · obtain ⟨hq, hadvanced, hsteady⟩ := importPlain_keeps he h.sound himport
      refine ih (h.step he himport).2 fun later hlater => ?_
      obtain ⟨other, n, hother, hheld'⟩ := hunits later (List.mem_cons_of_mem name hlater)
      exact ⟨other, n, (hsteady.unitFrom?_eq ..).trans hother, hheld'.advances h.sound hq hadvanced⟩

/-- What stands goes on standing if other components are imported. -/
theorem Stands.importPlain (h : Ready r from_ names) (halone : Undisturbed engine from_ names r)
    (himport : importPlain engine names r = .ok ⟨⟩ q)
    (hother : ∀ later ∈ names, UnitName.top later ≠ UnitName.top name) (hstands : Stands r name m) :
    Stands q name m := by
  induction names generalizing r with
  | nil =>
    cases himport
    exact hstands
  | cons first rest ih =>
    rw [importPlain_cons] at himport
    obtain ⟨_, r₁, hfirst, hrest⟩ := Run.bind_eq_ok.1 himport
    obtain ⟨⟨id, n, s, himported⟩, hready⟩ := h.step he hfirst
    refine ih hready (halone.2 r₁ hfirst) hrest
      (fun later hlater => hother later (List.mem_cons_of_mem first hlater))
      (himported.others name m (hother first List.mem_cons_self).symm ?_)
    exact hstands.spares h.body (halone.1 id n s himported.unit himported.load)

/-- After the imports every unit is loaded, and the body goes on. -/
theorem Ready.holds (h : Ready r from_ names) (himport : importPlain engine names r = .ok ⟨⟩ q) :
    q.IsBody from_ ∧ ∀ name ∈ names, ∃ id m, r.session.unitFrom? from_ name = some id ∧ q.session.Holds id m ∧
      ∀ part ∈ (pieces '.' name).tail, IsKey part := by
  induction names generalizing r with
  | nil =>
    cases himport
    exact ⟨h.body, by simp⟩
  | cons first rest ih =>
    rw [importPlain_cons] at himport
    obtain ⟨_, r₁, hfirst, hrest⟩ := Run.bind_eq_ok.1 himport
    obtain ⟨⟨id, m, s, himported⟩, hready⟩ := h.step he hfirst
    obtain ⟨hbody, hothers⟩ := ih hready hrest
    refine ⟨hbody, List.forall_mem_cons.2 ⟨?_, fun later hlater => ?_⟩⟩
    · obtain ⟨hq, hadvanced, -⟩ := importPlain_keeps he hready.sound hrest
      obtain ⟨value, -, hnested⟩ := himported.stands
      exact ⟨id, m, himported.unit, himported.held.advances hready.sound hq hadvanced, hnested.isKey⟩
    · obtain ⟨-, -, hsteady⟩ := importPlain_keeps he h.sound hfirst
      obtain ⟨other, n, hother, hheld⟩ := hothers later hlater
      exact ⟨other, n, (hsteady.unitFrom?_eq ..).symm.trans hother, hheld⟩

/-- **After the imports the last one under each first component stands.** -/
theorem stands_of_importPlain (h : Ready r from_ names) (halone : Undisturbed engine from_ names r)
    (himport : importPlain engine names r = .ok ⟨⟩ q) (hlast : lastUnder component names = some last) :
    ∃ id m, r.session.unitFrom? from_ last = some id ∧ q.session.Holds id m ∧ Stands q last m := by
  induction names generalizing r with
  | nil => cases hlast
  | cons first rest ih =>
    rw [importPlain_cons] at himport
    obtain ⟨_, r₁, hfirst, hrest⟩ := Run.bind_eq_ok.1 himport
    obtain ⟨⟨id, m, s, himported⟩, hready⟩ := h.step he hfirst
    rw [lastUnder_cons] at hlast
    cases hlater : lastUnder component rest with
    | some later =>
      rw [hlater] at hlast
      cases hlast
      obtain ⟨-, -, hsteady⟩ := importPlain_keeps he h.sound hfirst
      obtain ⟨other, n, hother, hheld⟩ := ih hready (halone.2 r₁ hfirst) hrest hlater
      exact ⟨other, n, (hsteady.unitFrom?_eq ..).symm.trans hother, hheld⟩
    | none =>
      -- no later import binds this component
      rw [hlater, Option.none_or, Option.ite_none_right_eq_some] at hlast
      obtain ⟨htop, heq⟩ := hlast
      obtain rfl := Option.some.inj heq
      have hothers : ∀ later ∈ rest, UnitName.top later ≠ component := by
        simpa [lastUnder] using hlater
      obtain ⟨hq, hadvanced, -⟩ := importPlain_keeps he hready.sound hrest
      exact ⟨id, m, himported.unit, himported.held.advances hready.sound hq hadvanced,
        himported.stands.importPlain he hready (halone.2 r₁ hfirst) hrest
          fun later hlater => htop ▸ hothers later hlater⟩

/-! ## Dotted expressions -/

/-- **Which dotted names can be evaluated after plain imports**, if nothing else writes into the body's names:
the last one of those with the same first component, and of the others those that go on with attributes of its
module which lead to the right module. -/
theorem evaluate_dotted_iff (numbered : List (Nat × String)) (h : Ready r from_ (numbered.map (·.2)))
    (halone : Undisturbed engine from_ (numbered.map (·.2)) r)
    (hrun : executeAll engine (importStatements numbered) r = .ok none q) (hname : name ∈ numbered.map (·.2)) :
    ∃ last id n owner m, lastUnder (UnitName.top name) (numbered.map (·.2)) = some last ∧
      r.session.unitFrom? from_ name = some id ∧ q.session.Holds id n ∧
      r.session.unitFrom? from_ last = some owner ∧ q.session.Holds owner m ∧
      ((∃ u, evaluate engine (dotted name) q = .ok (.module n) u) ↔
        name = last ∨ ∃ part rest, pieces '.' name = pieces '.' last ++ part :: rest ∧
          ∃ t, follow engine (.module m) (part :: rest) q.session = .ok (.module n) t) := by
  rw [executeAll_importStatements] at hrun
  obtain ⟨_, _, himport, hend⟩ := Run.bind_eq_ok.1 hrun
  cases hend
  obtain ⟨last, hlast⟩ : ∃ last, lastUnder (UnitName.top name) (numbered.map (·.2)) = some last := by
    refine Option.isSome_iff_exists.1 (List.find?_isSome.2 ⟨name, by simpa using hname, by simp⟩)
  have htop : UnitName.top last = UnitName.top name := by
    simpa using List.find?_some hlast
  obtain ⟨hbody, hholds⟩ := h.holds he himport
  obtain ⟨id, n, hid, hheld, hkey⟩ := hholds name hname
  obtain ⟨owner, m, howner, hheld', value, hbound, hnested⟩ := stands_of_importPlain he h halone himport hlast
  refine ⟨last, id, n, owner, m, hlast, hid, hheld, howner, hheld', ?_⟩
  rw [htop] at hbound
  have hevaluate : (∃ u, evaluate engine (dotted name) q = .ok (.module n) u) ↔
      ∃ t, follow engine value (pieces '.' name).tail q.session = .ok (.module n) t := by
    have hplain : ∀ part ∈ (pieces '.' name).tail, privateName q.frame.owner part = part :=
      fun part _ => by rw [hbody.outside, privateName_outside]
    rw [evaluate_dotted hplain (hbody.lookup_eq hbound)]
    constructor
    · rintro ⟨u, hu⟩
      obtain ⟨t, ht, -⟩ := Run.lift_eq_ok.1 hu
      exact ⟨t, ht⟩
    · rintro ⟨t, ht⟩
      exact ⟨_, Run.lift_ok ht⟩
  rw [hevaluate, hnested.follow_iff hkey]
  constructor
  · rintro ⟨rest, hparts, t, ht⟩
    rw [← UnitName.pieces_eq_append_iff htop.symm] at hparts
    cases rest with
    | nil => exact .inl (UnitName.pieces_inj.1 (by simpa using hparts))
    | cons part rest => exact .inr ⟨part, rest, hparts, t, ht⟩
  · rintro (rfl | ⟨part, rest, hparts, t, ht⟩)
    · -- one unit has one module
      obtain rfl := Option.some.inj (hid.symm.trans howner)
      obtain rfl := hheld.unique hheld'
      exact ⟨[], (List.append_nil _).symm, q.session, rfl⟩
    · exact ⟨part :: rest, (UnitName.pieces_eq_append_iff htop.symm).1 hparts, t, ht⟩

end

/-! ## Two units of one package -/

/-- The engine of a body in which units may be loaded. -/
def siblingEngine : Engine := Loader.callEngine (Loader.loaderWithin 3) 10

/-- A session with two units of one package, and a third one that may import them. All are loaded. -/
def siblings : Session :=
  (Session.holdingUnits [("p.A_ts1", "x = 1\n"), ("p.B_ts1", "y = 2\n"), ("p.C_ts1", "z = 3\n")]).performed
    [.load 0, .load 1, .load 2]

theorem siblings_reachable : siblings.Reachable := (Session.holdingUnits_reachable _).performed _

/-- The body of the third unit. -/
def importer : Running := { session := siblings, frame := { home := 2 } }

/-- The imports of both units. -/
def siblingImports : List Statement := importStatements [(1, "p.A"), (2, "p.B")]

/-- After the imports of both units the first one is loaded, but not found under its dotted name. -/
theorem siblings_evaluate :
    Ready importer 2 ["p.A", "p.B"] ∧ Loader.Level siblingEngine ∧
      Undisturbed siblingEngine 2 ["p.A", "p.B"] importer ∧
      ∃ q n, executeAll siblingEngine siblingImports importer = .ok none q ∧ q.session.Holds 0 n ∧
        ¬ ∃ u, evaluate siblingEngine (dotted "p.A") q = .ok (.module n) u := by
  have hran : (executeAll siblingEngine siblingImports).run' importer = some none := by decide +kernel
  have hsound : siblings.Sound := siblings_reachable.sound
  have howner : siblings.modules[2]?.map (·.owner) = some 2 := by decide +kernel
  have hfirst : siblings.unitFrom? 2 "p.A" = some 0 := by decide +kernel
  have hsecond : siblings.unitFrom? 2 "p.B" = some 1 := by decide +kernel
  have hheld : siblings.contexts.map (·.module?) = [some 0, some 1, some 2] := by decide +kernel
  obtain ⟨q, hrun⟩ := Action.exists_of_run hran
  unfold importer at hrun ⊢
  -- nothing else about the session is needed
  generalize siblings = s at hrun hsound howner hfirst hsecond hheld ⊢
  have hready : Ready { session := s, frame := { home := 2 } } 2 ["p.A", "p.B"] :=
    .of_home hsound howner (by simp [hfirst, hsecond])
  have hlevel : Loader.Level siblingEngine := .body 3 10
  have hholds : ∀ id m, (s.contexts.map (·.module?))[id]? = some (some m) → s.Holds id m := by
    intro id m hm
    rw [List.getElem?_map] at hm
    exact Option.map_eq_some_iff.1 hm
  have halone : Undisturbed siblingEngine 2 ["p.A", "p.B"] { session := s, frame := { home := 2 } } := by
    refine undisturbed_of_holds hlevel hready ?_
    rw [List.forall_mem_cons, List.forall_mem_singleton]
    exact ⟨⟨0, 0, hfirst, hholds 0 0 (by rw [hheld]; rfl)⟩, 1, 1, hsecond, hholds 1 1 (by rw [hheld]; rfl)⟩
  obtain ⟨last, id, n, owner, m, hlast, hid, hn, -, -, hiff⟩ :=
    evaluate_dotted_iff hlevel [(1, "p.A"), (2, "p.B")] hready halone hrun List.mem_cons_self
  have hother : lastUnder (UnitName.top "p.A") ["p.A", "p.B"] = some "p.B" := by decide +kernel
  obtain rfl := Option.some.inj (hother.symm.trans hlast)
  obtain rfl : id = 0 := Option.some.inj (hid.symm.trans hfirst)
  refine ⟨hready, hlevel, halone, q, n, hrun, hn, fun hevaluated => ?_⟩
  rcases hiff.1 hevaluated with hsame | ⟨part, rest, hparts, -⟩
  · exact absurd hsame (by decide)
  · exact absurd (congrArg List.length hparts) (by simp [Text.pieces, Text.splitOn])

/-- The first of two units cannot be evaluated under its dotted name after both have been imported, although
it can be without the second import. -/
theorem siblings_dotted :
    siblings.Reachable ∧ ["p.A", "p.B"].map (siblings.unitFrom? 2) = [some 0, some 1] ∧
      (do let _ ← executeAll siblingEngine (importStatements [(1, "p.A")])
          evaluate siblingEngine (dotted "p.A")).run' importer = some (.module 0) ∧
      (do let _ ← executeAll siblingEngine siblingImports
          evaluate siblingEngine (dotted "p.B")).run' importer = some (.module 1) ∧
      (do let _ ← executeAll siblingEngine siblingImports
          evaluate siblingEngine (dotted "p.A")).run' importer = none :=
  ⟨siblings_reachable, by decide +kernel, by decide +kernel, by decide +kernel, by decide +kernel⟩

end UnitFoundry.Script
