import UnitFoundry.Proofs.Loader.Below

/-!
# Imports of several names and of one name each

An import of several names from a package is not always the same as imports of one name each. It is if all
names lead to units, or none does. If some do and some do not, the names of units are looked for in the wrong
place: the statement fails although none of the statements for one name does, or it binds something that is no
unit.

* `Alone` — the statement for one of the names, where the units of the names before it are loaded;
* `Agrees` — the statement does what the statements for its names do;
* `agrees_of_units`, `agrees_of_none` — it does if all names lead to units, and if none does;
* `not_agrees_of_mixed` — it does not if it succeeds where some lead to units and some do not;
* `agrees_iff` — **when it does**.
-/

namespace UnitFoundry.Script

open Text

variable {engine : Engine} {r q p : Running} {s t : Session} {from_ : ContextId} {package name : String}
  {names before after : List String}

/-! ## The statements for the single names -/

/-- The statement for one name leaves something behind, where the units of the names before it are loaded. -/
def Alone (engine : Engine) (from_ : ContextId) (package : String) (before : List String) (name : String)
    (r p : Running) : Prop :=
  ∃ s, Loads engine from_ package before r s ∧ importNames engine package [name] { r with session := s } = .ok ⟨⟩ p

/-- Two values are the same, or objects made from the same. -/
def SameValue (s : Session) (v : Value) (t : Session) (w : Value) : Prop :=
  v = w ∨ ∃ i j o, v = .object i ∧ w = .object j ∧ s.objects[i]? = some o ∧ t.objects[j]? = some o

/-- Only a module is the same as a module. -/
theorem SameValue.eq_module {v : Value} {m : ModuleId} (h : SameValue s v t (.module m)) : v = .module m := by
  rcases h with rfl | ⟨i, j, o, -, hj, -⟩
  · rfl
  · cases hj

/-- What was taken is the same wherever it is shown. -/
theorem Taken.Shows.same {k : Taken} {v w : Value} (hv : k.Shows s v) (hw : k.Shows t w) :
    SameValue s v t w := by
  cases k with
  | there u => exact .inl (hv.trans hw.symm)
  | made o =>
    obtain ⟨i, rfl, hi⟩ := hv
    obtain ⟨j, rfl, hj⟩ := hw
    exact .inr ⟨i, j, o, rfl, rfl, hi, hj⟩
  | failed f => exact hv.elim

/-- The statement does what the statements for its names do: it succeeds if each of them does, and binds the
names to the same values. -/
structure Agrees (engine : Engine) (from_ : ContextId) (package : String) (names : List String)
    (r : Running) : Prop where
  succeeds : (∃ q, importNames engine package names r = .ok ⟨⟩ q) ↔
    ∀ before name after, names = before ++ name :: after → ∃ p, Alone engine from_ package before name r p
  values : ∀ q, importNames engine package names r = .ok ⟨⟩ q → ∀ before name after p,
    names = before ++ name :: after → Alone engine from_ package before name r p →
    ∃ v w, q.bound? name = some v ∧ p.bound? name = some w ∧ SameValue q.session v p.session w

section

variable (h : Importing r from_ package) (he : Loader.Level engine)

include h he

/-- Where units have been loaded, the name of a unit can be imported alone. -/
theorem Importing.single (hunit : r.LeadsBelow from_ package name) (hplain : IsPlain r name)
    (hload : Loads engine from_ package before r s) :
    Importing { r with session := s } from_ package ∧
      (∀ other ∈ [name], Running.LeadsBelow { r with session := s } from_ package other) ∧
      ∀ other ∈ [name], IsPlain { r with session := s } other := by
  obtain ⟨hs, hsteady, -⟩ := h.loads he hload
  exact ⟨hs, List.forall_mem_singleton.2 (hsteady.leadsBelow_iff.2 hunit),
    List.forall_mem_singleton.2 ⟨hplain.known, hplain.notClass, hplain.notTable⟩⟩

/-- The statement for the name of a unit succeeds if the unit is loaded. -/
theorem Importing.exists_alone (hunit : r.LeadsBelow from_ package name) (hstar : name ≠ "*")
    (hplain : IsPlain r name) (hload : Loads engine from_ package (before ++ [name]) r t) :
    ∃ p, Alone engine from_ package before name r p := by
  obtain ⟨s, hbefore, hname⟩ := loads_append.1 hload
  obtain ⟨hs, hunits, hplain⟩ := h.single he hunit hplain hbefore
  obtain ⟨p, hp, -⟩ := hs.importNames_of_units he (by simp) (by simpa using hstar.symm) hunits hplain hname
  exact ⟨p, s, hbefore, hp⟩

/-- Then it binds the name to the module that the unit holds. -/
theorem Importing.bound_of_alone (hunit : r.LeadsBelow from_ package name) (hstar : name ≠ "*")
    (hplain : IsPlain r name) (halone : Alone engine from_ package before name r p) :
    ∃ id m t, Loads engine from_ package (before ++ [name]) r t ∧
      r.session.unitFrom? from_ (privateName r.frame.owner package ++ "." ++ name) = some id ∧
      t.Holds id m ∧ p.bound? name = some (.module m) := by
  obtain ⟨s, hbefore, hp⟩ := halone
  obtain ⟨hs, hunits, hplain⟩ := h.single he hunit hplain hbefore
  have hnotstar : "*" ∉ [name] := by simpa using hstar.symm
  obtain ⟨t, hname⟩ := hs.loads_of_importNames he (by simp) hnotstar hunits hp
  obtain ⟨p', hp', hbound⟩ := hs.importNames_of_units he (by simp) hnotstar hunits hplain hname
  cases hp.symm.trans hp'
  obtain ⟨id, m, hid, hheld, hvalue⟩ := hbound name List.mem_cons_self
  refine ⟨id, m, t, loads_append.2 ⟨s, hbefore, hname⟩, ?_, hheld, hvalue⟩
  rw [← (h.loads he hbefore).2.1.unitFrom?_eq]
  exact hid

/-! ## Units only -/

/-- **The statement agrees with those for its names if all of them lead to units.** -/
theorem agrees_of_units (hne : names ≠ []) (hstar : "*" ∉ names)
    (hunits : ∀ name ∈ names, r.LeadsBelow from_ package name) (hplain : ∀ name ∈ names, IsPlain r name) :
    Agrees engine from_ package names r := by
  constructor
  case succeeds =>
    constructor
    · rintro ⟨q, hq⟩ before name after rfl
      have hname : name ∈ before ++ name :: after := by simp
      have hnotstar : name ≠ "*" := ne_of_mem_of_not_mem hname hstar
      obtain ⟨t, hload⟩ := h.loads_of_importNames he hne hstar hunits hq
      rw [List.append_cons] at hload
      obtain ⟨s, hloaded, -⟩ := loads_append.1 hload
      exact h.exists_alone he (hunits name hname) hnotstar (hplain name hname) hloaded
    · -- the statement for the last name is executed after all other units have been loaded
      intro halone
      obtain ⟨before, name, rfl⟩ : ∃ before name, names = before ++ [name] :=
        ⟨names.dropLast, names.getLast hne, (List.dropLast_append_getLast hne).symm⟩
      have hname : name ∈ before ++ [name] := by simp
      have hnotstar : name ≠ "*" := ne_of_mem_of_not_mem hname hstar
      obtain ⟨p, hp⟩ := halone before name [] rfl
      obtain ⟨-, -, t, hload, -⟩ := h.bound_of_alone he (hunits name hname) hnotstar (hplain name hname) hp
      obtain ⟨q, hq, -⟩ := h.importNames_of_units he hne hstar hunits hplain hload
      exact ⟨q, hq⟩
  case values =>
    rintro q hq before name after p rfl hp
    have hname : name ∈ before ++ name :: after := by simp
    have hnotstar : name ≠ "*" := ne_of_mem_of_not_mem hname hstar
    obtain ⟨t, hload⟩ := h.loads_of_importNames he hne hstar hunits hq
    obtain ⟨q', hq', hbound⟩ := h.importNames_of_units he hne hstar hunits hplain hload
    cases hq.symm.trans hq'
    obtain ⟨id, m, hid, hheld, hvalue⟩ := hbound name hname
    obtain ⟨other, n, s, hloaded, hother, hheld', hvalue'⟩ :=
      h.bound_of_alone he (hunits name hname) hnotstar (hplain name hname) hp
    -- what the context holds after its unit was loaded, it holds in the end
    rw [List.append_cons] at hload
    obtain ⟨s', hloaded', hafter⟩ := loads_append.1 hload
    cases hloaded.symm.trans hloaded'
    obtain ⟨hs, -⟩ := h.loads he hloaded
    obtain ⟨ht, -, hadvanced⟩ := hs.loads he hafter
    obtain rfl := Option.some.inj (hid.symm.trans hother)
    obtain rfl := hheld.unique (hheld'.advances hs.sound ht.sound hadvanced)
    exact ⟨_, _, hvalue, hvalue', .inl rfl⟩

/-! ## Other names -/

/-- If a name leads to no unit, the names are bound to what is taken out of a module that is no unit. -/
theorem Importing.shows_of_importNames (hstar : "*" ∉ names)
    (hplain : ∀ name ∈ names, privateName r.frame.owner name = name)
    (hother : ∃ name ∈ names, ¬ r.LeadsBelow from_ package name)
    (himport : importNames engine package names r = .ok ⟨⟩ q) :
    ∃ which, Import.importLibrary "" (privateName r.frame.owner package) true 0 = .ok which ∧
      ∀ name ∈ names, ∃ v, q.bound? name = some v ∧ (which.taken name).Shows q.session v := by
  classical
  -- the search ends at the first name that leads to no unit
  obtain ⟨first, hfirst⟩ : ∃ first, names.find? (fun name => ¬ r.LeadsBelow from_ package name) = some first := by
    refine Option.isSome_iff_exists.1 (List.find?_isSome.2 ?_)
    simpa using hother
  obtain ⟨hnone, before, after, rfl, hbefore⟩ := List.find?_eq_some_iff_append.1 hfirst
  have hunits : ∀ name ∈ before, r.LeadsBelow from_ package name := by simpa using hbefore
  rw [h.importNames_of_none he hstar hunits (by simpa using hnone)] at himport
  obtain ⟨_, _, hloaded, hrest⟩ := Run.bind_eq_ok.1 himport
  obtain ⟨s, hload, rfl⟩ := Run.lift_eq_ok.1 hloaded
  obtain ⟨which, _, hfound, hbind⟩ := Run.bind_eq_ok.1 hrest
  obtain ⟨_, hlibrary, rfl⟩ := Run.lift_eq_ok.1 hfound
  obtain ⟨hwhich, rfl⟩ := Action.ofExcept_eq_ok.1 hlibrary
  refine ⟨which, hwhich, ?_⟩
  have hwithin := (h.loads he hload).1.within
  rcases bindNames_taken hwithin hplain (.refl _)
      (fun name _ u _ => importedName_library engine which name u) with
    ⟨q', hq', hbinds⟩ | ⟨name, -, f, q', -, hq'⟩
  · cases hbind.symm.trans hq'
    exact hbinds.bound
  · cases hbind.symm.trans hq'

/-- If no name leads to a unit, and all can be taken out of the module that is no unit, the statement
succeeds. -/
theorem Importing.exists_importNames {which : Library} (hne : names ≠ []) (hstar : "*" ∉ names)
    (hplain : ∀ name ∈ names, privateName r.frame.owner name = name)
    (hnone : ∀ name ∈ names, ¬ r.LeadsBelow from_ package name)
    (hwhich : Import.importLibrary "" (privateName r.frame.owner package) true 0 = .ok which)
    (htaken : ∀ name ∈ names, ∀ f, which.taken name ≠ .failed f) :
    ∃ q, importNames engine package names r = .ok ⟨⟩ q := by
  obtain ⟨first, rest, rfl⟩ := List.exists_cons_of_ne_nil hne
  have hlibrary : Run.lift (ofExcept (Import.importLibrary "" (privateName r.frame.owner package) true 0)) r =
      .ok which r := by
    rw [hwhich]
    rfl
  have hload : Run.lift (Import.loadUnits engine.load from_ (privateName r.frame.owner package) []) r =
      .ok ⟨⟩ r := rfl
  have himport : importNames engine package ([] ++ first :: rest) r = _ :=
    h.importNames_of_none he hstar (by simp) (hnone first List.mem_cons_self)
  rcases bindNames_taken h.within hplain (.refl _)
      (fun name _ u _ => importedName_library engine which name u) with
    ⟨q, hq, -⟩ | ⟨name, hname, f, q, hfailed, -⟩
  · refine ⟨q, ?_⟩
    rw [List.nil_append] at himport
    rw [himport, Run.bind_ok hload, Run.bind_ok hlibrary]
    exact hq
  · exact (htaken name hname f hfailed).elim

omit he in
/-- The statement for a name that leads to no unit, where no name before it does. Nothing has been loaded
then. -/
theorem Importing.alone_iff {p : Running} (hnone : ∀ name ∈ before, ¬ r.LeadsBelow from_ package name) :
    Alone engine from_ package before name r p ↔ importNames engine package [name] r = .ok ⟨⟩ p := by
  obtain ⟨c, hc⟩ := h.context
  have hload : Loads engine from_ package before r r.session := Import.loadUnits_of_none hc hnone
  constructor
  · rintro ⟨s, hloaded, hp⟩
    cases hload.symm.trans hloaded
    exact hp
  · exact fun hp => ⟨r.session, hload, hp⟩

/-- The statement for such a name binds it to what is taken. -/
theorem Importing.shows_of_alone (hstar : name ≠ "*") (hplain : privateName r.frame.owner name = name)
    (hnone : ∀ other ∈ name :: before, ¬ r.LeadsBelow from_ package other)
    (halone : Alone engine from_ package before name r p) :
    ∃ which, Import.importLibrary "" (privateName r.frame.owner package) true 0 = .ok which ∧
      ∃ v, p.bound? name = some v ∧ (which.taken name).Shows p.session v := by
  obtain ⟨hname, hbefore⟩ := List.forall_mem_cons.1 hnone
  have himport := (h.alone_iff hbefore).1 halone
  obtain ⟨which, hwhich, hshows⟩ := h.shows_of_importNames he (by simpa using hstar.symm)
    (List.forall_mem_singleton.2 hplain) ⟨name, List.mem_cons_self, hname⟩ himport
  exact ⟨which, hwhich, hshows name List.mem_cons_self⟩

/-- It succeeds if something can be taken. -/
theorem Importing.exists_alone_of_taken {which : Library} (hstar : name ≠ "*")
    (hplain : privateName r.frame.owner name = name)
    (hnone : ∀ other ∈ name :: before, ¬ r.LeadsBelow from_ package other)
    (hwhich : Import.importLibrary "" (privateName r.frame.owner package) true 0 = .ok which)
    (htaken : ∀ f, which.taken name ≠ .failed f) : ∃ p, Alone engine from_ package before name r p := by
  obtain ⟨hname, hbefore⟩ := List.forall_mem_cons.1 hnone
  obtain ⟨p, hp⟩ := h.exists_importNames he (List.cons_ne_nil name []) (by simpa using hstar.symm)
    (List.forall_mem_singleton.2 hplain) (List.forall_mem_singleton.2 hname) hwhich
    (List.forall_mem_singleton.2 htaken)
  exact ⟨p, (h.alone_iff hbefore).2 hp⟩

/-- **The statement agrees with those for its names if none of them leads to a unit.** -/
theorem agrees_of_none (hne : names ≠ []) (hstar : "*" ∉ names)
    (hplain : ∀ name ∈ names, privateName r.frame.owner name = name)
    (hnone : ∀ name ∈ names, ¬ r.LeadsBelow from_ package name) :
    Agrees engine from_ package names r := by
  obtain ⟨first, hfirst⟩ := List.exists_mem_of_ne_nil names hne
  have hothers : ∀ before name after, names = before ++ name :: after →
      name ∈ names ∧ name ≠ "*" ∧ ∀ other ∈ name :: before, ¬ r.LeadsBelow from_ package other := by
    rintro before name after rfl
    have hname : name ∈ before ++ name :: after := by simp
    refine ⟨hname, ne_of_mem_of_not_mem hname hstar, List.forall_mem_cons.2 ⟨hnone name hname, ?_⟩⟩
    exact fun other hother => hnone other (List.mem_append_left _ hother)
  constructor
  case succeeds =>
    constructor
    · rintro ⟨q, hq⟩ before name after hsplit
      obtain ⟨hname, hnotstar, hother⟩ := hothers before name after hsplit
      obtain ⟨which, hwhich, hshows⟩ :=
        h.shows_of_importNames he hstar hplain ⟨first, hfirst, hnone first hfirst⟩ hq
      obtain ⟨v, -, hv⟩ := hshows name hname
      exact h.exists_alone_of_taken he hnotstar (hplain name hname) hother hwhich
        fun f hfailed => by rwa [hfailed] at hv
    · intro halone
      have htaken : ∀ name ∈ names, ∃ which,
          Import.importLibrary "" (privateName r.frame.owner package) true 0 = .ok which ∧
            ∃ p v, (which.taken name).Shows p v := by
        intro name hname
        obtain ⟨before, after, hsplit⟩ := List.append_of_mem hname
        obtain ⟨-, hnotstar, hother⟩ := hothers before name after hsplit
        obtain ⟨p, hp⟩ := halone before name after hsplit
        obtain ⟨which, hwhich, v, -, hv⟩ := h.shows_of_alone he hnotstar (hplain name hname) hother hp
        exact ⟨which, hwhich, p.session, v, hv⟩
      obtain ⟨which, hwhich, -⟩ := htaken first hfirst
      refine h.exists_importNames he hne hstar hplain hnone hwhich fun name hname f hfailed => ?_
      obtain ⟨other, hother, s, v, hv⟩ := htaken name hname
      cases hwhich.symm.trans hother
      rwa [hfailed] at hv
  case values =>
    intro q hq before name after p hsplit hp
    obtain ⟨hname, hnotstar, hother⟩ := hothers before name after hsplit
    obtain ⟨which, hwhich, hshows⟩ :=
      h.shows_of_importNames he hstar hplain ⟨first, hfirst, hnone first hfirst⟩ hq
    obtain ⟨v, hv, hshown⟩ := hshows name hname
    obtain ⟨which', hwhich', w, hw, hshown'⟩ := h.shows_of_alone he hnotstar (hplain name hname) hother hp
    cases hwhich.symm.trans hwhich'
    exact ⟨v, w, hv, hw, hshown.same hshown'⟩

/-! ## Names of both kinds -/

/-- **The statement does not agree with those for its names if it succeeds where some lead to units and some
do not.** It binds the name of a unit to something that is no unit. -/
theorem not_agrees_of_mixed {unit other : String} (hstar : "*" ∉ names)
    (hplain : ∀ name ∈ names, privateName r.frame.owner name = name)
    (hunit : unit ∈ names) (hleads : r.LeadsBelow from_ package unit) (hunitplain : IsPlain r unit)
    (hother : other ∈ names) (hnone : ¬ r.LeadsBelow from_ package other)
    (himport : importNames engine package names r = .ok ⟨⟩ q) :
    ¬ Agrees engine from_ package names r := by
  intro hagrees
  obtain ⟨before, after, hsplit⟩ := List.append_of_mem hunit
  have hnotstar : unit ≠ "*" := ne_of_mem_of_not_mem hunit hstar
  obtain ⟨p, hp⟩ := hagrees.succeeds.1 ⟨q, himport⟩ before unit after hsplit
  obtain ⟨id, m, t, -, -, -, hmodule⟩ := h.bound_of_alone he hleads hnotstar hunitplain hp
  obtain ⟨which, -, hshows⟩ := h.shows_of_importNames he hstar hplain ⟨other, hother, hnone⟩ himport
  obtain ⟨u, hu, htaken⟩ := hshows unit hunit
  obtain ⟨v, w, hv, hw, hsame⟩ := hagrees.values q himport before unit after p hsplit hp
  obtain rfl := Option.some.inj (hu.symm.trans hv)
  obtain rfl := Option.some.inj (hmodule.symm.trans hw)
  obtain rfl := hsame.eq_module
  exact Library.not_shows_module which unit m q.session htaken

/-- **When an import of several names agrees with the imports of one name each**: if all names lead to units,
or none does; otherwise only where it fails, and one of them fails as well. -/
theorem agrees_iff (hne : names ≠ []) (hstar : "*" ∉ names)
    (hplain : ∀ name ∈ names, privateName r.frame.owner name = name)
    (hunits : ∀ name ∈ names, r.LeadsBelow from_ package name → name ≠ "__class__" ∧ name ≠ "__dict__") :
    Agrees engine from_ package names r ↔
      ((∀ name ∈ names, r.LeadsBelow from_ package name) ∨
        ∀ name ∈ names, ¬ r.LeadsBelow from_ package name) ∨
      (¬ ∃ q, importNames engine package names r = .ok ⟨⟩ q) ∧
        ∃ before name after, names = before ++ name :: after ∧
          ∀ p, ¬ Alone engine from_ package before name r p := by
  constructor
  · intro hagrees
    by_contra hcontra
    simp only [not_or, not_and, not_forall, not_not] at hcontra
    obtain ⟨⟨⟨other, hother, hnone⟩, unit, hunit, hleads⟩, hfails⟩ := hcontra
    obtain ⟨hclass, htable⟩ := hunits unit hunit hleads
    have hunitplain : IsPlain r unit := ⟨hplain unit hunit, hclass, htable⟩
    by_cases himport : ∃ q, importNames engine package names r = .ok ⟨⟩ q
    · obtain ⟨q, hq⟩ := himport
      exact not_agrees_of_mixed h he hstar hplain hunit hleads hunitplain hother hnone hq hagrees
    · refine hfails himport ?_
      by_contra halone
      push Not at halone
      exact himport (hagrees.succeeds.2 halone)
  · rintro ((hall | hnone) | ⟨hfails, before, name, after, hsplit, halone⟩)
    · exact agrees_of_units h he hne hstar hall fun name hname =>
        have hkeyed := hunits name hname (hall name hname)
        ⟨hplain name hname, hkeyed.1, hkeyed.2⟩
    · exact agrees_of_none h he hne hstar hplain hnone
    · constructor
      case succeeds =>
        refine ⟨fun himport => (hfails himport).elim, fun hall => ?_⟩
        obtain ⟨p, hp⟩ := hall before name after hsplit
        exact (halone p hp).elim
      case values => exact fun q hq => (hfails ⟨q, hq⟩).elim

end

/-! ## Units below a library -/

/-- The engine of a body that no other body's load is part of. -/
def shelvedEngine : Engine := Loader.callEngine (Loader.loaderWithin 3) 10

/-- A session with two units below the name of a library, and a unit that has been loaded. -/
def shelves : Session :=
  (Session.holdingUnits [("json.U_ts1", "x = 1\n"), ("json.V_ts1", "x = 2\n"), ("p.C_ts1", "y = 0\n")]).performed
    [.load 2]

theorem shelves_reachable : shelves.Reachable := (Session.holdingUnits_reachable _).performed _

/-- The body of the unit that has been loaded. -/
def shelved : Running := { session := shelves, frame := { home := 0 } }

/-- The units alone are imported by one statement as they are by two. -/
theorem shelved_agrees :
    Importing shelved 2 "json" ∧ Loader.Level shelvedEngine ∧
      (∀ name ∈ ["U", "V"], privateName shelved.frame.owner name = name) ∧
      (∀ name ∈ ["U", "V"], shelved.LeadsBelow 2 "json" name → name ≠ "__class__" ∧ name ≠ "__dict__") ∧
      Agrees shelvedEngine 2 "json" ["U", "V"] shelved := by
  have himporting : Importing shelved 2 "json" :=
    .of_body shelves_reachable.sound (by decide +kernel) (by decide +kernel) (by decide +kernel)
  have hlevel : Loader.Level shelvedEngine := .body 3 10
  have hplain : ∀ name ∈ ["U", "V"], privateName shelved.frame.owner name = name := by decide +kernel
  have hnames : ∀ name ∈ ["U", "V"], name ≠ "__class__" ∧ name ≠ "__dict__" := by decide
  have hunits : ∀ name ∈ ["U", "V"], shelved.LeadsBelow 2 "json" name := by
    unfold Running.LeadsBelow Session.LeadsBelow
    decide +kernel
  refine ⟨himporting, hlevel, hplain, fun name hname _ => hnames name hname, ?_⟩
  exact (agrees_iff himporting hlevel (by decide) (by decide) hplain fun name hname _ =>
    hnames name hname).2 (.inl (.inl hunits))

/-- One of the units and a name of the library can be imported by two statements, in either order and each
without the other, and not by one. -/
theorem shelved_mixed :
    shelves.Reachable ∧
      (importNames shelvedEngine "json" ["U", "dumps"]).run' shelved = none ∧
      (importNames shelvedEngine "json" ["dumps", "U"]).run' shelved = none ∧
      (do importNames shelvedEngine "json" ["U"]
          return (← get).bound? "U" : Run (Option Value)).run' shelved = some (some (.module 1)) ∧
      (do importNames shelvedEngine "json" ["dumps"]
          return (← get).bound? "dumps" : Run (Option Value)).run' shelved = some (some .dumps) ∧
      (do importNames shelvedEngine "json" ["U"]
          importNames shelvedEngine "json" ["dumps"]
          return ((← get).bound? "U", (← get).bound? "dumps") : Run (Option Value × Option Value)).run' shelved =
        some (some (.module 1), some .dumps) :=
  ⟨shelves_reachable, by decide +kernel, by decide +kernel, by decide +kernel,
    by decide +kernel, by decide +kernel⟩

end UnitFoundry.Script
