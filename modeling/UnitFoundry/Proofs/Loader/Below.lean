import UnitFoundry.Proofs.Loader.Steady
import UnitFoundry.Proofs.Script.Attributes

/-!
# Imports of names below a package

An import of names below a package first looks for units. If all names lead to one, they are loaded one after
the other and bundled, and the names are bound to their modules. If a name leads to none, the search ends
there: the units before it have been loaded, and all names are taken out of a module that is no unit.

* `Import.loadUnits` — units below a package are loaded one after the other;
* `Import.members_of_units`, `members_of_none` — the search for units;
* `Importing` — a place in a unit where names below a package can be imported;
* `importNames_of_units`, `importNames_of_none` — **what the statement does** if all names lead to units, and
  if one does not.
-/

namespace UnitFoundry

open Script Text

/-- A name leads to a unit below a package. -/
def Session.LeadsBelow (s : Session) (from_ : ContextId) (package name : String) : Prop :=
  (s.unitFrom? from_ (package ++ "." ++ name)).isSome

theorem Session.Steady.leadsBelow_iff {s t : Session} (h : s.Steady t) {from_ : ContextId}
    {package name : String} : t.LeadsBelow from_ package name ↔ s.LeadsBelow from_ package name := by
  rw [Session.LeadsBelow, Session.LeadsBelow, h.unitFrom?_eq]

/-! ## Units below a package -/

namespace Import

/-- The units that names lead to below a package are loaded one after the other. Other names are passed over. -/
def loadUnits (load : Loader) (from_ : ContextId) (package : String) : List String → Action Unit
  | [] => pure ()
  | name :: rest => do
    match ← resolve from_ (package ++ "." ++ name) with
    | some id => do
      let _ ← load id
      loadUnits load from_ package rest
    | none => loadUnits load from_ package rest

variable {engine : Engine} {load : Loader} {s t : Session} {from_ id : ContextId} {c : Context}
  {package name : String} {names before after : List String} {found entries : List (String × Value)}

theorem keeps_loadUnits {d : Discipline} (hload : ∀ id, d.Keeps (load id)) (from_ : ContextId)
    (package : String) (names : List String) : d.Keeps (loadUnits load from_ package names) := by
  induction names with
  | nil => exact .pure ()
  | cons name rest ih =>
    refine (Discipline.keeps_resolve ..).bind fun target _ => ?_
    cases target with
    | some id => exact (hload id).bind fun _ _ => ih
    | none => exact ih

theorem loadUnits_append (load : Loader) (from_ : ContextId) (package : String) (before after : List String) :
    loadUnits load from_ package (before ++ after) =
      (do loadUnits load from_ package before; loadUnits load from_ package after) := by
  induction before with
  | nil => rfl
  | cons name rest ih =>
    simp only [List.cons_append, loadUnits, ih, bind_assoc]
    refine bind_congr fun target => ?_
    cases target with
    | some id => simp only [bind_assoc]
    | none => rfl

/-- A unit is loaded, and then those that other names lead to. -/
theorem loadUnits_cons_of_unit (hc : s.contexts[from_]? = some c)
    (hunit : s.unitFrom? from_ (package ++ "." ++ name) = some id) :
    loadUnits load from_ package (name :: names) s =
      (do let _ ← load id; loadUnits load from_ package names : Action Unit) s := by
  rw [loadUnits, Action.bind_ok (Session.resolve_apply hc _), hunit]

/-- Nothing is loaded for names that lead to no units. -/
theorem loadUnits_of_none (hc : s.contexts[from_]? = some c)
    (hnone : ∀ name ∈ names, ¬ s.LeadsBelow from_ package name) :
    loadUnits load from_ package names s = .ok ⟨⟩ s := by
  induction names with
  | nil => rfl
  | cons name rest ih =>
    have hname : s.unitFrom? from_ (package ++ "." ++ name) = none := by
      simpa [Session.LeadsBelow] using hnone name List.mem_cons_self
    rw [loadUnits, Action.bind_ok (Session.resolve_apply hc _), hname]
    exact ih fun other hother => hnone other (List.mem_cons_of_mem name hother)

theorem members_cons_of_unit (hc : s.contexts[from_]? = some c)
    (hunit : s.unitFrom? from_ (package ++ "." ++ name) = some id) :
    members load from_ package (name :: names) found s =
      (do
        let m ← load id
        members load from_ package names (setEntry name (.module m) found) :
          Action (Option (List (String × Value)))) s := by
  rw [members, Action.bind_ok (Session.resolve_apply hc _), hunit]

/-- Entries list the units that names lead to, with the modules that their contexts hold. -/
structure ListsUnits (s : Session) (from_ : ContextId) (package : String) (names : List String)
    (found entries : List (String × Value)) (t : Session) : Prop where
  units : ∀ name ∈ names, ∃ id m, s.unitFrom? from_ (package ++ "." ++ name) = some id ∧ t.Holds id m ∧
    lookupEntry name entries = some (.module m)
  others : ∀ name, name ∉ names → lookupEntry name entries = lookupEntry name found

section Loading

variable (he : Loader.Level engine)

include he

theorem loadUnits_steady (h : loadUnits engine.load from_ package names s = .ok ⟨⟩ t) : s.Steady t :=
  ((keeps_loadUnits (he.governs Session.steadying_loads.materializes).load ..).ok trivial h).2

theorem loadUnits_advances (hs : s.Sound) (h : loadUnits engine.load from_ package names s = .ok ⟨⟩ t) :
    t.Sound ∧ Session.Advances s t :=
  (keeps_loadUnits (d := Session.advancing) (he.governs Session.advancing_hosts.materializes).load ..).ok hs h

/-- **Units that all names lead to** are loaded and listed. -/
theorem members_of_units (hs : s.Sound) (hc : s.contexts[from_]? = some c)
    (hunits : ∀ name ∈ names, s.LeadsBelow from_ package name)
    (h : loadUnits engine.load from_ package names s = .ok ⟨⟩ t) (found : List (String × Value)) :
    ∃ entries, members engine.load from_ package names found s = .ok (some entries) t ∧
      ListsUnits s from_ package names found entries t := by
  induction names generalizing s c found with
  | nil =>
    cases h
    exact ⟨found, rfl, by simp, fun _ _ => rfl⟩
  | cons first rest ih =>
    obtain ⟨id, hid⟩ := Option.isSome_iff_exists.1 (hunits first List.mem_cons_self)
    rw [loadUnits_cons_of_unit hc hid] at h
    obtain ⟨m, s₁, hload, hrest⟩ := Action.bind_eq_ok.1 h
    obtain ⟨hs₁, -, hheld⟩ := hs.load_advances he hload
    have hsteady := Session.load_steady he hload
    obtain ⟨c₁, hc₁⟩ := hsteady.exists_context hc
    have hunits₁ : ∀ name ∈ rest, s₁.LeadsBelow from_ package name :=
      fun name hname => hsteady.leadsBelow_iff.2 (hunits name (List.mem_cons_of_mem first hname))
    obtain ⟨entries, hmembers, hlists⟩ := ih hs₁ hc₁ hunits₁ hrest (setEntry first (.module m) found)
    obtain ⟨ht, hadvanced⟩ := loadUnits_advances he hs₁ hrest
    refine ⟨entries, ?_, fun name hname => ?_, fun name hname => ?_⟩
    · rw [members_cons_of_unit hc hid, Action.bind_ok hload, hmembers]
    · by_cases hmem : name ∈ rest
      · obtain ⟨other, n, hother, hrest⟩ := hlists.units name hmem
        rw [hsteady.unitFrom?_eq] at hother
        exact ⟨other, n, hother, hrest⟩
      · -- the entry that was set for this name is the last one
        obtain rfl : name = first := (List.mem_cons.1 hname).resolve_right hmem
        refine ⟨id, m, hid, hheld.advances hs₁ ht hadvanced, ?_⟩
        rw [hlists.others name hmem, lookupEntry_setEntry, if_pos rfl]
    · rw [List.mem_cons, not_or] at hname
      rw [hlists.others name hname.2, lookupEntry_setEntry, if_neg hname.1]

/-- A failure of one of the loads. -/
theorem members_of_units_error {f : Failure} (hc : s.contexts[from_]? = some c)
    (hunits : ∀ name ∈ names, s.LeadsBelow from_ package name)
    (h : loadUnits engine.load from_ package names s = .error f t) (found : List (String × Value)) :
    members engine.load from_ package names found s = .error f t := by
  induction names generalizing s c found with
  | nil => cases h
  | cons first rest ih =>
    obtain ⟨id, hid⟩ := Option.isSome_iff_exists.1 (hunits first List.mem_cons_self)
    rw [loadUnits_cons_of_unit hc hid] at h
    rw [members_cons_of_unit hc hid]
    rcases Action.bind_eq_error.1 h with hload | ⟨m, s₁, hload, hrest⟩
    · rw [Action.bind_error hload]
    · have hsteady := Session.load_steady he hload
      obtain ⟨c₁, hc₁⟩ := hsteady.exists_context hc
      have hunits₁ : ∀ name ∈ rest, s₁.LeadsBelow from_ package name :=
        fun name hname => hsteady.leadsBelow_iff.2 (hunits name (List.mem_cons_of_mem first hname))
      rw [Action.bind_ok hload, ih hc₁ hunits₁ hrest]

/-- **A name that leads to no unit** ends the search. The units before it have been loaded. -/
theorem members_of_none (hc : s.contexts[from_]? = some c)
    (hunits : ∀ name ∈ before, s.LeadsBelow from_ package name)
    (hnone : ¬ s.LeadsBelow from_ package name) (found : List (String × Value)) :
    members engine.load from_ package (before ++ name :: after) found s =
      (do
        loadUnits engine.load from_ package before
        pure none : Action (Option (List (String × Value)))) s := by
  induction before generalizing s c found with
  | nil =>
    have hname : s.unitFrom? from_ (package ++ "." ++ name) = none := by
      simpa [Session.LeadsBelow] using hnone
    rw [List.nil_append, members, Action.bind_ok (Session.resolve_apply hc _), hname]
    rfl
  | cons first rest ih =>
    obtain ⟨id, hid⟩ := Option.isSome_iff_exists.1 (hunits first List.mem_cons_self)
    rw [List.cons_append, members_cons_of_unit hc hid, loadUnits, bind_assoc,
      Action.bind_ok (Session.resolve_apply hc _), hid, bind_assoc]
    cases hload : engine.load id s with
    | error f t => rw [Action.bind_error hload, Action.bind_error hload]
    | ok m s₁ =>
      have hsteady := Session.load_steady he hload
      obtain ⟨c₁, hc₁⟩ := hsteady.exists_context hc
      have hunits₁ : ∀ name ∈ rest, s₁.LeadsBelow from_ package name :=
        fun name hname => hsteady.leadsBelow_iff.2 (hunits name (List.mem_cons_of_mem first hname))
      rw [Action.bind_ok hload, Action.bind_ok hload,
        ih hc₁ hunits₁ (fun h => hnone (hsteady.leadsBelow_iff.1 h))]

end Loading

end Import

/-! ## The statement -/

namespace Script

variable {engine : Engine} {r q : Running} {s t : Session} {from_ : ContextId} {package name : String}
  {names before after : List String}

/-- An import of names below a package. -/
def importNames (engine : Engine) (package : String) (names : List String) : Run Unit :=
  runImport engine (.names 0 package (names.map fun name => (name, none)))

/-- Names that are not all names are taken out of what the import gets. -/
theorem importNames_eq (engine : Engine) (package : String) (hstar : "*" ∉ names) :
    importNames engine package names = (do
      let value ← importInto engine package names 0
      bindNames engine value (names.map fun name => (name, none))) := by
  have hwanted : (names.map fun name => (name, (none : Option String))).map (·.1) = names := by
    simp [Function.comp_def]
  have hall : (names.map fun name => (name, (none : Option String))).any (·.1 = "*") = false := by
    simp only [List.any_map, List.any_eq_false, Function.comp_apply, decide_eq_true_eq]
    rintro name hname rfl
    exact hstar hname
  rw [importNames, runImport, hwanted]
  refine bind_congr fun value => ?_
  rw [hall]
  rfl

/-- The names that an import wants, if they are not all names. -/
theorem filter_star (hstar : "*" ∉ names) : names.filter (· != "*") = names := by
  refine List.filter_eq_self.2 fun name hname => ?_
  have hne : name ≠ "*" := by
    rintro rfl
    exact hstar hname
  simpa using hne

/-- A place in a unit where names below a package can be imported. The package itself is no unit. -/
structure Importing (r : Running) (from_ : ContextId) (package : String) : Prop where
  within : r.Within from_
  sound : r.session.Sound
  context : ∃ c, r.session.contexts[from_]? = some c
  package : r.session.unitFrom? from_ (privateName r.frame.owner package) = none

/-- The body of a unit is such a place. -/
theorem Importing.of_body {home : ModuleId} (hs : s.Sound)
    (howner : s.modules[home]?.map (·.owner) = some from_) (hcontext : (s.contexts[from_]?).isSome)
    (hpackage : s.unitFrom? from_ package = none) :
    Importing { session := s, frame := { home } } from_ package where
  within := Option.map_eq_some_iff.1 howner
  sound := hs
  context := Option.isSome_iff_exists.1 hcontext
  package := by simpa using hpackage

/-- The name of a unit below the package. -/
def Running.LeadsBelow (r : Running) (from_ : ContextId) (package name : String) : Prop :=
  r.session.LeadsBelow from_ (privateName r.frame.owner package) name

/-- The units that names lead to are loaded one after the other, which leaves a session behind. -/
def Loads (engine : Engine) (from_ : ContextId) (package : String) (names : List String) (r : Running)
    (t : Session) : Prop :=
  Import.loadUnits engine.load from_ (privateName r.frame.owner package) names r.session = .ok ⟨⟩ t

/-- A name that stands for itself, wherever it is looked up. -/
structure IsPlain (r : Running) (name : String) : Prop where
  known : privateName r.frame.owner name = name
  notClass : name ≠ "__class__"
  notTable : name ≠ "__dict__"

theorem loads_append : Loads engine from_ package (before ++ after) r t ↔
    ∃ s, Loads engine from_ package before r s ∧
      Loads engine from_ package after { r with session := s } t := by
  unfold Loads
  rw [Import.loadUnits_append, Action.bind_eq_ok]
  constructor
  · rintro ⟨_, s, hbefore, hafter⟩
    exact ⟨s, hbefore, hafter⟩
  · rintro ⟨s, hbefore, hafter⟩
    exact ⟨⟨⟩, s, hbefore, hafter⟩

namespace Importing

section Statement

variable (h : Importing r from_ package) (he : Loader.Level engine)

include h he

/-- Where units have been loaded, names lead where they led before. -/
theorem loads (hload : Loads engine from_ package names r t) :
    Importing { r with session := t } from_ package ∧ r.session.Steady t ∧
      Session.Advances r.session t := by
  have hsteady := Import.loadUnits_steady he hload
  obtain ⟨ht, hadvanced⟩ := Import.loadUnits_advances he h.sound hload
  obtain ⟨c, hc⟩ := h.context
  exact ⟨⟨h.within.steady hsteady, ht, hsteady.exists_context hc, (hsteady.unitFrom?_eq ..).trans h.package⟩,
    hsteady, hadvanced⟩

/-- **If all names lead to units**, they are loaded, and the names are bound to their modules. -/
theorem importNames_of_units (hne : names ≠ []) (hstar : "*" ∉ names)
    (hunits : ∀ name ∈ names, r.LeadsBelow from_ package name) (hplain : ∀ name ∈ names, IsPlain r name)
    (hload : Loads engine from_ package names r t) :
    ∃ q, importNames engine package names r = .ok ⟨⟩ q ∧ ∀ name ∈ names, ∃ id m,
      r.session.unitFrom? from_ (privateName r.frame.owner package ++ "." ++ name) = some id ∧
      t.Holds id m ∧ q.bound? name = some (.module m) := by
  obtain ⟨c, hc⟩ := h.context
  obtain ⟨entries, hmembers, hlists⟩ := Import.members_of_units he h.sound hc hunits hload []
  have hother : Import.importOther engine.load from_ (privateName r.frame.owner package) names r.session =
      .ok (.object t.objects.size) { t with objects := t.objects.push (.bundle entries) } := by
    rw [Import.importOther, filter_star hstar, if_neg (by simpa using hne), Action.bind_ok hmembers]
    rfl
  have hinto : importInto engine package names 0 r = .ok (.object t.objects.size)
      { r with session := { t with objects := t.objects.push (.bundle entries) } } := by
    rw [importInto_of_none h.within hc h.package]
    exact Run.lift_ok hother
  have hwithin : Running.Within
      { r with session := { t with objects := t.objects.push (.bundle entries) } } from_ :=
    h.within.steady ((h.loads he hload).2.1.trans (.of_modules rfl rfl rfl))
  -- the names are taken out of the bundle
  have htaken : ∀ name ∈ names, ∀ u : Session,
      Session.KeepsObjects { t with objects := t.objects.push (.bundle entries) } u →
      importedName engine (.object t.objects.size) name u =
        (Taken.there ((lookupEntry name entries).getD .none)).act u := by
    intro name hname u hkeeps
    obtain ⟨id, m, -, -, hentry⟩ := hlists.units name hname
    have hbundle := hkeeps _ _ Array.getElem?_push_size
    rw [hentry]
    exact importedName_some
      (attributeOf_bundle hbundle (hplain name hname).notClass (hplain name hname).notTable hentry)
  rcases bindNames_taken hwithin (fun name hname => (hplain name hname).known) (.refl _) htaken with
    ⟨q, hq, hbinds⟩ | ⟨name, -, f, q, hfailed, -⟩
  · refine ⟨q, ?_, fun name hname => ?_⟩
    · rw [importNames_eq engine package hstar, Run.bind_ok hinto, hq]
    · obtain ⟨id, m, hid, hheld, hentry⟩ := hlists.units name hname
      obtain ⟨v, hv, hshows⟩ := hbinds.bound name hname
      rw [hentry] at hshows
      obtain rfl : v = .module m := hshows
      exact ⟨id, m, hid, hheld, hv⟩
  · cases hfailed

/-- The statement fails if one of the loads does. -/
theorem loads_of_importNames (hne : names ≠ []) (hstar : "*" ∉ names)
    (hunits : ∀ name ∈ names, r.LeadsBelow from_ package name)
    (himport : importNames engine package names r = .ok ⟨⟩ q) :
    ∃ t, Loads engine from_ package names r t := by
  obtain ⟨c, hc⟩ := h.context
  cases hload : Import.loadUnits engine.load from_ (privateName r.frame.owner package) names r.session with
  | ok _ t => exact ⟨t, hload⟩
  | error f t =>
    have hmembers := Import.members_of_units_error he hc hunits hload []
    have hother : Import.importOther engine.load from_ (privateName r.frame.owner package) names r.session =
        .error f t := by
      rw [Import.importOther, filter_star hstar, if_neg (by simpa using hne), Action.bind_error hmembers]
    have hinto : importInto engine package names 0 r = .error f { r with session := t } := by
      rw [importInto_of_none h.within hc h.package]
      exact Run.lift_error hother
    rw [importNames_eq engine package hstar, Run.bind_error hinto] at himport
    cases himport

/-- **If a name leads to no unit**, the names are taken out of the module that is no unit, after the units
before this name have been loaded. -/
theorem importNames_of_none (hstar : "*" ∉ before ++ name :: after)
    (hunits : ∀ name ∈ before, r.LeadsBelow from_ package name) (hnone : ¬ r.LeadsBelow from_ package name) :
    importNames engine package (before ++ name :: after) r = (do
      Run.lift (Import.loadUnits engine.load from_ (privateName r.frame.owner package) before)
      let which ← Run.lift (ofExcept (Import.importLibrary "" (privateName r.frame.owner package) true 0))
      bindNames engine (.library which) ((before ++ name :: after).map fun name => (name, none))) r := by
  obtain ⟨c, hc⟩ := h.context
  have hmembers : Import.members engine.load from_ _ (before ++ name :: after) [] r.session = _ :=
    Import.members_of_none he hc hunits hnone []
  have hother : Import.importOther engine.load from_ (privateName r.frame.owner package)
      (before ++ name :: after) r.session = (do
        Import.loadUnits engine.load from_ (privateName r.frame.owner package) before
        pure (.library (← ofExcept
          (Import.importLibrary "" (privateName r.frame.owner package) true 0))) : Action Value) r.session := by
    have hempty : (before ++ name :: after).isEmpty = false := by simp
    rw [Import.importOther, filter_star hstar, hempty]
    cases hload : Import.loadUnits engine.load from_ (privateName r.frame.owner package) before r.session with
    | error f t =>
      rw [Action.bind_error hload] at hmembers ⊢
      exact Action.bind_error hmembers
    | ok _ t =>
      rw [Action.bind_ok hload] at hmembers ⊢
      exact Action.bind_ok hmembers
  have hinto : importInto engine package (before ++ name :: after) 0 r = _ :=
    importInto_of_none h.within hc h.package
  rw [importNames_eq engine package hstar]
  cases hload : Import.loadUnits engine.load from_ (privateName r.frame.owner package) before r.session with
  | error f t =>
    rw [Action.bind_error hload] at hother
    rw [Run.bind_error (hinto.trans (Run.lift_error hother)), Run.bind_error (Run.lift_error hload)]
  | ok _ t =>
    rw [Action.bind_ok hload] at hother
    rw [Run.bind_ok (Run.lift_ok hload)]
    cases hlibrary : Import.importLibrary "" (privateName r.frame.owner package) true 0 with
    | error f =>
      rw [hlibrary] at hother
      rw [Run.bind_error (hinto.trans (Run.lift_error hother))]
      rfl
    | ok which =>
      rw [hlibrary] at hother
      rw [Run.bind_ok (hinto.trans (Run.lift_ok hother))]
      rfl

end Statement

end Importing

end Script

end UnitFoundry
