import UnitFoundry.Proofs.Loader.Below
import UnitFoundry.Proofs.Loader.Dotted

/-!
# Ways to a unit

A unit below a package that is no unit itself can be had in several ways: by its full name, by an import under another
name, by a plain import and the dotted name, by an import out of the package, and by a call of the import that wants
names. They all end as the loading of the unit does, unless the unit is loaded but a part of its name, other than the
first, is one that no namespace can be given.

* `Way`, `Way.get` — the ways, and what is got by them;
* `Asking` — a place in a unit where they are open;
* `outcome_get_of_error`, `outcome_get_of_isKey` — what is got if the unit cannot be loaded, and if it can: then each
  way has its own lemma;
* `ways_agree_iff` — **when all ways end as the loading of the unit does**.
-/

namespace UnitFoundry.Script

open Text

variable {engine : Engine} {r q : Running} {s t : Session} {from_ id : ContextId} {m : ModuleId} {f : Failure}
  {package last name : String} {value : Value}

/-! ## The ways -/

/-- What something comes to, whatever it leaves behind. -/
def outcome {ε σ α : Type} : EStateM.Result ε σ α → Except ε α
  | .ok a _ => .ok a
  | .error e _ => .error e

theorem outcome_eq_ok {ε σ α : Type} {x : EStateM.Result ε σ α} {a : α} : outcome x = .ok a ↔ ∃ u, x = .ok a u := by
  cases x with
  | ok b u => simp [outcome]
  | error e u => simp [outcome]

/-- A way to get at a unit below a package. -/
inductive Way where
  /-- By its full name. -/
  | full
  /-- By an import under another name. -/
  | renamed (other : String)
  /-- By a plain import, and then by its dotted name. -/
  | dotted
  /-- By an import out of the package. -/
  | below
  /-- By a call of the import, with two sets of names and the names that are wanted. -/
  | call (globals locals wanted : Value)

/-- What is got. -/
def Way.get (engine : Engine) (from_ : ContextId) (package last : String) : Way → Run Value
  | .full => Run.lift (Import.loadUnit engine.load from_ (package ++ "." ++ last))
  | .renamed other => do
    runImport engine (.modules [(package ++ "." ++ last, some other)])
    evaluate engine (.name other)
  | .dotted => do
    importPlain engine [package ++ "." ++ last]
    evaluate engine (Script.dotted (package ++ "." ++ last))
  | .below => do
    importNames engine package [last]
    evaluate engine (.name last)
  | .call globals locals wanted =>
    Run.lift (callImporter engine from_ [.text (package ++ "." ++ last), globals, locals, wanted])

/-- If a way asks for names, then names are wanted once the unit has been loaded. -/
def Way.Wants (engine : Engine) (id : ContextId) (s : Session) : Way → Prop
  | .call _ _ wanted => ∀ m t, engine.load id s = .ok m t → ∃ u, truth engine wanted t = .ok true u
  | _ => True

/-- A place in a unit where a unit below a package can be asked for. The package is no unit, and no part of the name
is private there. -/
structure Asking (r : Running) (from_ id : ContextId) (package last : String) : Prop where
  within : r.Within from_
  regular : r.IsRegular
  plain : ∀ part ∈ pieces '.' (package ++ "." ++ last), privateName r.frame.owner part = part
  noUnit : r.session.unitFrom? from_ package = none
  unit : r.session.unitFrom? from_ (package ++ "." ++ last) = some id
  dot : '.' ∉ last.toList
  star : last ≠ "*"

/-! ## Names -/

/-- A name below another is never private. -/
theorem privateName_below (owner package last : String) :
    privateName owner (package ++ "." ++ last) = package ++ "." ++ last := by
  have hdot : (package ++ "." ++ last).toList.contains '.' = true := List.contains_iff_mem.2 (by simp)
  rw [privateName, if_neg (by rw [hdot]; simp)]

/-- The parts of a name are those of the package, and the last one. -/
theorem pieces_below (hdot : '.' ∉ last.toList) :
    pieces '.' (package ++ "." ++ last) = pieces '.' package ++ [last] := by
  have hchars : (package ++ "." ++ last).toList = package.toList ++ '.' :: last.toList := by simp
  rw [pieces, hchars, splitOn_append, splitOn_of_notMem hdot, List.map_append, List.map_singleton, String.ofList_toList]
  rfl

theorem last_mem_tail (hdot : '.' ∉ last.toList) : last ∈ (pieces '.' (package ++ "." ++ last)).tail := by
  rw [pieces_below hdot, UnitName.pieces_eq_cons package]
  simp

namespace Asking

variable (h : Asking r from_ id package last)

include h

theorem known_tail (part : String) (hpart : part ∈ (pieces '.' (package ++ "." ++ last)).tail) :
    privateName r.frame.owner part = part :=
  h.plain part (List.mem_of_mem_tail hpart)

theorem known_last : privateName r.frame.owner last = last := h.known_tail last (last_mem_tail h.dot)

theorem known_package : privateName r.frame.owner package = package := by
  by_cases hdot : '.' ∈ package.toList
  · rw [privateName, if_neg (by rw [List.contains_iff_mem.2 hdot]; simp)]
  · refine h.plain package ?_
    rw [pieces_below h.dot, pieces, splitOn_of_notMem hdot]
    simp

theorem exists_context : ∃ c, r.session.contexts[from_]? = some c := by
  obtain ⟨c, hc, -⟩ := Option.bind_eq_some_iff.1 h.unit
  exact ⟨c, hc⟩

/-! ## What is loaded -/

/-- The full name is that of the unit. -/
theorem loadUnit_eq (engine : Engine) : Import.loadUnit engine.load from_ (package ++ "." ++ last) r.session =
    (do pure (.module (← engine.load id)) : Action Value) r.session := by
  obtain ⟨c, hc⟩ := h.exists_context
  rw [Import.loadUnit, Action.bind_ok (Session.resolve_apply hc _), h.unit]

/-- An import of the full name gets the unit. -/
theorem importInto_full (engine : Engine) : importInto engine (package ++ "." ++ last) [] 0 r =
    Run.lift (do Import.nest (package ++ "." ++ last) (.module (← engine.load id))) r := by
  have hknown := privateName_below r.frame.owner package last
  have hinto : importInto engine (package ++ "." ++ last) [] 0 r = _ :=
    importInto_of_unit h.within (by rw [hknown]; exact h.unit)
  rwa [hknown] at hinto

/-- An import out of the package gets a bundle with the unit. -/
theorem importInto_package (engine : Engine) : importInto engine package [last] 0 r =
    Run.lift (do Action.newObject (.bundle [(last, .module (← engine.load id))])) r := by
  obtain ⟨c, hc⟩ := h.exists_context
  have hknown := h.known_package
  have hinto : importInto engine package [last] 0 r = _ :=
    importInto_of_none h.within hc (by rw [hknown]; exact h.noUnit)
  have hmembers : Import.members engine.load from_ package [last] [] r.session =
      (do pure (some [(last, .module (← engine.load id))]) : Action (Option (List (String × Value)))) r.session :=
    Import.members_cons_of_unit hc h.unit
  have hstar : "*" ∉ [last] := by simpa using h.star.symm
  have hother : Import.importOther engine.load from_ package [last] r.session =
      (do Action.newObject (.bundle [(last, .module (← engine.load id))]) : Action Value) r.session := by
    rw [Import.importOther, filter_star hstar]
    cases hload : engine.load id r.session with
    | error f t =>
      rw [Action.bind_error hload] at hmembers ⊢
      exact Action.bind_error hmembers
    | ok m t =>
      rw [Action.bind_ok hload] at hmembers ⊢
      exact Action.bind_ok hmembers
  rw [hinto, hknown]
  unfold Run.lift
  rw [hother]

/-- A call of the import with the full name gets the unit, and then looks whether names are wanted. -/
theorem callImporter_eq (engine : Engine) (globals locals wanted : Value) :
    callImporter engine from_ [.text (package ++ "." ++ last), globals, locals, wanted] r.session =
      importNamedUnit engine id (.text (package ++ "." ++ last)) (some wanted) r.session := by
  obtain ⟨c, hc⟩ := h.exists_context
  have hlevel : isEqual engine (.whole 0) (.whole 0) r.session = .ok true r.session := rfl
  have hname : resolveValue engine from_ (.text (package ++ "." ++ last)) r.session =
      .ok (some id) r.session := by
    rw [resolveValue, Action.bind_ok (Action.context_some hc), ← h.unit]
    exact Session.resolve_apply hc _
  exact (Action.bind_ok hlevel).trans (Action.bind_ok hname)

/-! ## What is got -/

theorem importNames_singleton (engine : Engine) : importNames engine package [last] =
    (do
      let value ← importInto engine package [last] 0
      bindNames engine value [(last, none)]) :=
  importNames_eq engine package (by simpa using h.star.symm)

/-- If the unit cannot be loaded, all ways fail as the loading does. -/
theorem outcome_get_of_error (hload : engine.load id r.session = .error f t) (way : Way) :
    outcome (way.get engine from_ package last r) = .error f := by
  cases way with
  | full =>
    have hunit := h.loadUnit_eq engine
    rw [Action.bind_error hload] at hunit
    rw [Way.get, Run.lift_error hunit, outcome]
  | renamed other =>
    have hinto := h.importInto_full engine
    rw [Run.lift_error (Action.bind_error hload)] at hinto
    rw [Way.get, runImport, importModules, Run.bind_error (Run.bind_error hinto), outcome]
  | dotted =>
    have hinto := h.importInto_full engine
    rw [Run.lift_error (Action.bind_error hload)] at hinto
    have himport : importPlain engine [package ++ "." ++ last] r = .error f { r with session := t } :=
      Run.bind_error hinto
    rw [Way.get, Run.bind_error himport, outcome]
  | below =>
    have hinto := h.importInto_package engine
    rw [Run.lift_error (Action.bind_error hload)] at hinto
    rw [Way.get, h.importNames_singleton, Run.bind_error (Run.bind_error hinto), outcome]
  | call globals locals wanted =>
    have hcall := h.callImporter_eq engine globals locals wanted
    have hunit : importNamedUnit engine id (.text (package ++ "." ++ last)) (some wanted) r.session = .error f t :=
      Action.bind_error hload
    rw [hunit] at hcall
    rw [Way.get, Run.lift_error hcall, outcome]

end Asking

/-- A name that has just been bound is evaluated. -/
theorem evaluate_binding (engine : Engine) (h : r.Within from_) (hregular : r.IsRegular) (name : String)
    (value : Value) : evaluate engine (.name name) (r.binding name value) = .ok value (r.binding name value) := by
  rw [evaluate, Running.lookup_binding h hregular]

namespace Asking

/-- If all parts of the name but the first are fit for namespaces, then namespaces around the module are made. -/
theorem importInto_loaded (h : Asking r from_ id package last) (hload : engine.load id r.session = .ok m t)
    (hkey : ∀ part ∈ (pieces '.' (package ++ "." ++ last)).tail, IsKey part) :
    ∃ value objects, importInto engine (package ++ "." ++ last) [] 0 r =
        .ok value { r with session := { t with objects } } ∧
      Nested { t with objects } value (pieces '.' (package ++ "." ++ last)).tail (.module m) := by
  obtain ⟨value, u, hnest⟩ := exists_nestParts hkey (.module m) t
  obtain ⟨⟨objects, rfl⟩, -, hnested⟩ := nestParts_eq_ok hnest
  refine ⟨value, objects, ?_, hnested⟩
  rw [h.importInto_full]
  exact Run.lift_ok ((Action.bind_ok hload).trans hnest)

section Loaded

variable (he : Loader.Level engine) (h : Asking r from_ id package last) (hload : engine.load id r.session = .ok m t)

include he h hload

/-- A load leaves the place as it is. -/
theorem within_loaded (objects : Array Object) :
    Running.Within { r with session := { t with objects } } from_ :=
  h.within.steady ((Session.load_steady he hload).trans (.of_modules rfl rfl rfl))

/-- An import under another name binds the module. -/
theorem outcome_renamed (hkey : ∀ part ∈ (pieces '.' (package ++ "." ++ last)).tail, IsKey part) (other : String) :
    outcome ((Way.renamed other).get engine from_ package last r) = .ok (.module m) := by
  obtain ⟨value, objects, hinto, hnested⟩ := h.importInto_loaded hload hkey
  have hfollow := hnested.foldlM_eq (importedName engine) fun id entries part found hid hpart hentry =>
    importedName_some (attributeOf_bundle hid hpart.1 hpart.2 hentry)
  have htaken := (foldlM_known (r := { r with session := { t with objects } }) (importedName engine) h.known_tail
    value).trans (Run.lift_ok hfollow)
  have himport : runImport engine (.modules [(package ++ "." ++ last, some other)]) r = .ok ⟨⟩
      (Running.binding { r with session := { t with objects } } other (.module m)) :=
    (Run.bind_ok hinto).trans ((Run.bind_ok htaken).trans (Run.bind_ok (Running.bind_apply ..)))
  have hvalue := evaluate_binding engine (h.within_loaded he hload objects) h.regular other (.module m)
  rw [Way.get, Run.bind_ok himport, hvalue, outcome]

/-- A plain import binds the namespaces, and the dotted name leads through them to the module. -/
theorem outcome_dotted (hkey : ∀ part ∈ (pieces '.' (package ++ "." ++ last)).tail, IsKey part) :
    outcome (Way.dotted.get engine from_ package last r) = .ok (.module m) := by
  obtain ⟨value, objects, hinto, hnested⟩ := h.importInto_loaded hload hkey
  have himport : importPlain engine [package ++ "." ++ last] r = .ok ⟨⟩
      (Running.binding { r with session := { t with objects } } (UnitName.top (package ++ "." ++ last)) value) :=
    (Run.bind_ok hinto).trans (Run.bind_ok (Running.bind_apply ..))
  have hlookup := Running.lookup_binding (h.within_loaded he hload objects) h.regular
    (UnitName.top (package ++ "." ++ last)) value
  have hthere : Nested (Running.binding { r with session := { t with objects } }
      (UnitName.top (package ++ "." ++ last)) value).session value (pieces '.' (package ++ "." ++ last)).tail
        (.module m) := by
    refine hnested.mono fun id entries hid => ?_
    rw [Running.binding_objects]
    exact hid
  have hfollow := hthere.foldlM_eq (attributeOf engine) fun id entries part found hid hpart hentry =>
    attributeOf_bundle hid hpart.1 hpart.2 hentry
  have hdotted : evaluate engine (dotted (package ++ "." ++ last)) _ = _ :=
    evaluate_dotted (by rw [Running.binding_owner]; exact h.known_tail) hlookup
  rw [follow, Run.lift_ok hfollow] at hdotted
  rw [Way.get, Run.bind_ok himport, hdotted, outcome]

/-- An import out of the package takes the module from a bundle. -/
theorem outcome_below (hkey : IsKey last) : outcome (Way.below.get engine from_ package last r) = .ok (.module m) := by
  have hinto := h.importInto_package engine
  have hbundle : (do Action.newObject (.bundle [(last, .module (← engine.load id))]) : Action Value) r.session =
      .ok (.object t.objects.size) { t with objects := t.objects.push (.bundle [(last, .module m)]) } :=
    Action.bind_ok hload
  rw [Run.lift_ok hbundle] at hinto
  have htaken : importedName engine (.object t.objects.size) last
      { t with objects := t.objects.push (.bundle [(last, .module m)]) } = .ok (.module m) _ :=
    importedName_some (attributeOf_bundle Array.getElem?_push_size hkey.1 hkey.2 (by simp [lookupEntry]))
  have himport : importNames engine package [last] r = .ok ⟨⟩ (Running.binding
      { r with session := { t with objects := t.objects.push (.bundle [(last, .module m)]) } } last (.module m)) := by
    rw [h.importNames_singleton, Run.bind_ok hinto, bindNames, Run.bind_ok (Run.known_apply ..), h.known_last,
      Run.bind_ok (Run.lift_ok htaken)]
    exact Run.bind_ok (Running.bind_apply ..)
  have hwithin := h.within_loaded he hload (t.objects.push (.bundle [(last, .module m)]))
  have hvalue := evaluate_binding engine hwithin h.regular last (.module m)
  rw [Way.get, Run.bind_ok himport, hvalue, outcome]

/-- Then all ways lead to the module. -/
theorem outcome_get_of_isKey (hkey : ∀ part ∈ (pieces '.' (package ++ "." ++ last)).tail, IsKey part) (way : Way)
    (hwants : way.Wants engine id r.session) :
    outcome (way.get engine from_ package last r) = .ok (.module m) := by
  cases way with
  | full =>
    have hunit := h.loadUnit_eq engine
    rw [Action.bind_ok hload] at hunit
    rw [Way.get, Run.lift_ok hunit, outcome]
  | renamed other => exact h.outcome_renamed he hload hkey other
  | dotted => exact h.outcome_dotted he hload hkey
  | below => exact h.outcome_below he hload (hkey last (last_mem_tail h.dot))
  | call globals locals wanted =>
    obtain ⟨u, htruth⟩ := hwants m t hload
    have hcall := h.callImporter_eq engine globals locals wanted
    have hunit : importNamedUnit engine id (.text (package ++ "." ++ last)) (some wanted) r.session =
        .ok (.module m) u :=
      (Action.bind_ok hload).trans (Action.bind_ok htruth)
    rw [hunit] at hcall
    rw [Way.get, Run.lift_ok hcall, outcome]

end Loaded

end Asking

/-- **When all ways end as the loading of the unit does**, with its module or with its failure: if it fails, or if no
part of the name but the first is one that namespaces cannot be given. -/
theorem ways_agree_iff (he : Loader.Level engine) (h : Asking r from_ id package last) :
    (∀ way : Way, way.Wants engine id r.session →
      outcome (way.get engine from_ package last r) = (outcome (engine.load id r.session)).map Value.module) ↔
    (∃ f, outcome (engine.load id r.session) = .error f) ∨
      ∀ part ∈ (pieces '.' (package ++ "." ++ last)).tail, IsKey part := by
  cases hload : engine.load id r.session with
  | error f t => exact iff_of_true (fun way _ => h.outcome_get_of_error hload way) (.inl ⟨f, rfl⟩)
  | ok m t =>
    constructor
    · intro hways
      have hrenamed : outcome ((Way.renamed last).get engine from_ package last r) = .ok (.module m) :=
        hways (.renamed last) trivial
      obtain ⟨q, hget⟩ := outcome_eq_ok.1 hrenamed
      obtain ⟨_, r₁, himport, -⟩ := Run.bind_eq_ok.1 hget
      obtain ⟨value, r₂, hinto, -⟩ := Run.bind_eq_ok.1 himport
      rw [h.importInto_full] at hinto
      obtain ⟨u, hunit, -⟩ := Run.lift_eq_ok.1 hinto
      obtain ⟨n, u', -, hnest⟩ := Action.bind_eq_ok.1 hunit
      exact .inr (nestParts_eq_ok hnest).2.2.isKey
    · rintro (⟨f, hf⟩ | hkey) way hwants
      · cases hf
      · exact h.outcome_get_of_isKey he hload hkey way hwants

/-- The body of a unit is a place where another one can be asked for. -/
theorem Asking.of_home {home : ModuleId} (howner : s.modules[home]?.map (·.owner) = some from_)
    (hnone : s.unitFrom? from_ package = none) (hunit : s.unitFrom? from_ (package ++ "." ++ last) = some id)
    (hdot : '.' ∉ last.toList) (hstar : last ≠ "*") :
    Asking { session := s, frame := { home } } from_ id package last where
  within := Option.map_eq_some_iff.1 howner
  regular _ := ⟨rfl, rfl⟩
  plain part _ := privateName_outside part
  noUnit := hnone
  unit := hunit
  dot := hdot
  star := hstar

/-- All ways lead to the module of a unit that has been loaded. -/
theorem siblings_ways : (Loader.Level siblingEngine ∧ Asking importer 2 0 "p" "A") ∧
    ∀ way : Way, way.Wants siblingEngine 0 importer.session →
      outcome (way.get siblingEngine 2 "p" "A" importer) = .ok (.module 0) := by
  have hlevel : Loader.Level siblingEngine := .body 3 10
  have hasking : Asking importer 2 0 "p" "A" :=
    .of_home (by decide +kernel) (by decide +kernel) (by decide +kernel) (by decide) (by decide)
  have hloaded : (outcome (siblingEngine.load 0 importer.session)).toOption = some 0 := by decide +kernel
  have hways := (ways_agree_iff hlevel hasking).2 (.inr (by decide +kernel))
  refine ⟨⟨hlevel, hasking⟩, fun way hwants => ?_⟩
  rw [hways way hwants]
  cases hend : outcome (siblingEngine.load 0 importer.session) with
  | error f =>
    rw [hend] at hloaded
    cases hloaded
  | ok m =>
    rw [hend] at hloaded
    cases hloaded
    rfl

/-- A session with a unit whose name no namespace can be given, and another one. Both are loaded. -/
def shadowed : Session :=
  (Session.holdingUnits [("p.__class__", "x = 1\n"), ("p.C_ts1", "z = 3\n")]).performed [.load 0, .load 1]

/-- The unit has been loaded, but an import under another name fails. -/
theorem shadowed_fails : Asking { session := shadowed, frame := { home := 1 } } 1 0 "p" "__class__" ∧
    (outcome (siblingEngine.load 0 shadowed)).toOption = some 0 ∧
    (outcome ((Way.renamed "a").get siblingEngine 1 "p" "__class__"
      { session := shadowed, frame := { home := 1 } })).toOption = none :=
  ⟨.of_home (by decide +kernel) (by decide +kernel) (by decide +kernel) (by decide) (by decide),
    by decide +kernel, by decide +kernel⟩

end UnitFoundry.Script
