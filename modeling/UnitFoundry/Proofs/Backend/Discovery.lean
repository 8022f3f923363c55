import UnitFoundry.Backend.Installed
import UnitFoundry.Proofs.Entries
import UnitFoundry.Proofs.Operations
import UnitFoundry.Proofs.Pieces

/-!
# How the search for a backend ends

A search ends with a backend or with the error that none is to be had, whatever the specification and whatever is
installed, but for the failures of a module in a path `module:attribute`: of these only the failures to import it and
to find the attribute are reported by that error. So a path without a module, one whose module begins with a dot, and
one whose module fails for another reason when it is imported, end the search with a failure of their own. What leaves
the program, as a command does, always leaves the search, too.

* `Failure.isUnavailable` — the error that no backend is to be had;
* `Catalogue.IsPath` — a specification that is read as a path;
* `Catalogue.Leaves` — **the failures that leave the search**, by what the specification names;
* `find_cases` — every search ends with a backend, with the error, or with one of these failures;
* `load_settled_iff` — **when a search ends as it should**;
* `load_settled_iff_named` — then it does for all paths that name a module, if all modules can be imported.
-/

namespace UnitFoundry

open Text

/-- The error that no backend is to be had. -/
def Failure.isUnavailable : Failure → Bool
  | .error { kind := .backendUnavailable, .. } => true
  | _ => false

namespace Catalogue

variable {c : Catalogue} {spec? : Option String} {spec place member : String} {why : Failure} {found : Offer}

/-! ## What is found -/

/-- A specification is looked for, as it is neither empty nor a built-in name. -/
structure IsSearched (c : Catalogue) (spec : String) : Prop where
  nonempty : spec ≠ ""
  notBuiltin : lookupEntry spec c.builtin = none

/-- A specification is read as the path of an attribute of a module: it has a colon, up to the first of which it names
the module, and no entry point of this name has anything to offer. -/
structure IsPath (c : Catalogue) (spec place member : String) : Prop where
  split : spec = place ++ ":" ++ member
  first : ':' ∉ place.toList
  noEntry : c.ofEntryPoint? spec = .ok none

/-- The failures that leave a search for a specification. -/
inductive Leaves (c : Catalogue) (spec : String) : Failure → Prop
  /-- No module is named. -/
  | unnamed {member : String} (h : c.IsPath spec "" member) : Leaves c spec emptyName
  /-- The module is named as if there were a package that it is in. -/
  | relative {place member : String} (h : c.IsPath spec place member) (hdot : beginsWith place "." = true) :
    Leaves c spec (relativeName place)
  /-- The module fails for a reason of its own when it is imported. -/
  | broken {place member : String} {why : Failure} (h : c.IsPath spec place member) (hnamed : place ≠ "")
    (hdot : beginsWith place "." = false) (himport : c.importFailure? "" (pieces '.' place) = some why)
    (hother : isLookupFailure why = false) : Leaves c spec why
  /-- The module of an entry point leaves the program when it is imported. -/
  | exit {entry : EntryPoint} {why : Failure} (hentry : c.entryPoints.find? (·.name = spec) = some entry)
    (hoffer : c.offer entry.place entry.member = .error why) (hexit : why.isOrdinary = false) : Leaves c spec why
  /-- What is found leaves the program when it is called. -/
  | exitCall {why : Failure} (hfound : c.target spec = .ok (.failing why)) (hexit : why.isOrdinary = false) :
    Leaves c spec why

/-- **The failures of an attribute**: its module is not named, or named by a relative name, or cannot be imported, or
there is no such attribute. -/
theorem offer_eq_error (h : c.offer place member = .error why) :
    (place = "" ∧ why = emptyName) ∨ (beginsWith place "." = true ∧ why = relativeName place) ∨
      (place ≠ "" ∧ beginsWith place "." = false ∧ c.importFailure? "" (pieces '.' place) = some why) ∨
      isLookupFailure why = true := by
  unfold offer at h
  split at h
  · rename_i hempty
    cases h
    exact .inl ⟨by simpa using hempty, rfl⟩
  rename_i hnamed
  split at h
  · rename_i hdot
    cases h
    exact .inr (.inl ⟨hdot, rfl⟩)
  rename_i hdot
  split at h
  · rename_i other himport
    cases h
    exact .inr (.inr (.inl ⟨by simpa using hnamed, by simpa using hdot, himport⟩))
  · split at h
    · cases h
    · cases h
      exact .inr (.inr (.inr (by decide +kernel : isLookupFailure (.exception "AttributeError" "") = true)))

/-- What an entry point ends with that cannot be had. -/
theorem ofEntryPoint_eq_error (h : c.ofEntryPoint? spec = .error why) :
    why.isUnavailable = true ∨ c.Leaves spec why := by
  unfold ofEntryPoint? at h
  split at h
  · cases h
  rename_i entry hentry
  split at h
  · cases h
  rename_i reason hoffer
  cases h
  split
  · exact .inl rfl
  · rename_i hexit
    exact .inr (.exit hentry hoffer (by simpa using hexit))

/-- A specification with a colon is a path, unless there is an entry point of this name. -/
theorem exists_isPath (hnone : c.ofEntryPoint? spec = .ok none) (hcolon : ':' ∈ spec.toList) :
    ∃ place member, c.IsPath spec place member := by
  obtain ⟨hsplit, hfirst⟩ := cutFirst_spec hcolon
  refine ⟨String.ofList (cutFirst ':' spec.toList).1, String.ofList (cutFirst ':' spec.toList).2, ?_, ?_, hnone⟩
  · rw [← String.toList_inj]
    simpa [String.toList_append] using hsplit
  · rwa [String.toList_ofList]

namespace IsPath

theorem colon (h : c.IsPath spec place member) : ':' ∈ spec.toList := by
  rw [h.split]
  simp [String.toList_append]

/-- A path is looked up in the module that it names. -/
theorem cut (h : c.IsPath spec place member) : cutFirst ':' spec.toList = (place.toList, member.toList) := by
  rw [h.split, String.toList_append, String.toList_append, List.append_assoc]
  exact cutFirst_append h.first

theorem ofPath_of_ok (h : c.IsPath spec place member) (hoffer : c.offer place member = .ok found) :
    c.ofPath? spec = .ok (something? found) := by
  rw [ofPath?, if_neg (by simpa using h.colon), h.cut]
  dsimp only
  rw [String.ofList_toList, String.ofList_toList, hoffer]

theorem ofPath_of_error (h : c.IsPath spec place member) (hoffer : c.offer place member = .error why) :
    c.ofPath? spec = .error (if isLookupFailure why then .error (.brokenPath spec why) else why) := by
  rw [ofPath?, if_neg (by simpa using h.colon), h.cut]
  dsimp only
  rw [String.ofList_toList, String.ofList_toList, hoffer]

/-- A failure to find the attribute that has another reason ends the search. -/
theorem target_eq_error (h : c.IsPath spec place member) (hoffer : c.offer place member = .error why)
    (hother : isLookupFailure why = false) : c.target spec = .error why := by
  have hpath := h.ofPath_of_error hoffer
  rw [hother, if_neg Bool.false_ne_true] at hpath
  rw [target, h.noEntry]
  show (c.ofPath? spec >>= _) = _
  rw [hpath]
  rfl

end IsPath

/-- What a path ends with that leads to nothing. -/
theorem ofPath_eq_error (hnone : c.ofEntryPoint? spec = .ok none) (h : c.ofPath? spec = .error why) :
    why.isUnavailable = true ∨ c.Leaves spec why := by
  have hcolon : ':' ∈ spec.toList := by
    by_contra hcolon
    rw [ofPath?, if_pos (by simpa using hcolon)] at h
    cases h
  obtain ⟨place, member, hpath⟩ := exists_isPath hnone hcolon
  cases hoffer : c.offer place member with
  | ok found => cases (hpath.ofPath_of_ok hoffer).symm.trans h
  | error reason =>
    obtain rfl := Except.error.inj ((hpath.ofPath_of_error hoffer).symm.trans h)
    split
    · exact .inl rfl
    rename_i hother
    right
    rcases offer_eq_error hoffer with ⟨rfl, rfl⟩ | ⟨hdot, rfl⟩ | ⟨hnamed, hdot, himport⟩ | hlookup
    · exact .unnamed hpath
    · exact .relative hpath hdot
    · exact .broken hpath hnamed hdot himport (by simpa using hother)
    · exact absurd hlookup hother

/-- What a search ends with that finds nothing. -/
theorem target_eq_error (h : c.target spec = .error why) : why.isUnavailable = true ∨ c.Leaves spec why := by
  unfold target at h
  cases hentry : c.ofEntryPoint? spec with
  | error reason =>
    rw [hentry] at h
    cases h
    exact ofEntryPoint_eq_error hentry
  | ok offered =>
    cases offered with
    | some found =>
      rw [hentry] at h
      cases h
    | none =>
      rw [hentry] at h
      change (c.ofPath? spec >>= _) = _ at h
      cases hpath : c.ofPath? spec with
      | error reason =>
        rw [hpath] at h
        cases h
        exact ofPath_eq_error hentry hpath
      | ok offered =>
        rw [hpath] at h
        cases offered with
        | some found => cases h
        | none =>
          cases h
          exact .inl rfl

/-- A backend is made of what is found, or it is said that there is none, or the program is left. -/
theorem make_cases (spec : String) (found : Offer) : (∃ b, make spec found = .ok b) ∨
    (∃ why, make spec found = .error why ∧ why.isUnavailable = true) ∨
    ∃ why, found = .failing why ∧ why.isOrdinary = false ∧ make spec found = .error why := by
  cases found with
  | backend b => exact .inl ⟨b, rfl⟩
  | other => exact .inr (.inl ⟨_, rfl, rfl⟩)
  | nothing => exact .inr (.inl ⟨_, rfl, rfl⟩)
  | failing why =>
    cases hordinary : why.isOrdinary with
    | true => exact .inr (.inl ⟨.error (.unmakeable spec why), by rw [make, hordinary]; rfl, rfl⟩)
    | false => exact .inr (.inr ⟨why, rfl, hordinary, by rw [make, hordinary]; rfl⟩)

/-! ## How searches end -/

theorem find_of_isSearched (h : c.IsSearched spec) : c.find (some spec) = c.target spec >>= make spec := by
  rw [find, if_neg (by simpa using h.nonempty), h.notBuiltin]

/-- **What leaves a search** is what it ends with. -/
theorem find_of_leaves (hsearched : c.IsSearched spec) (h : c.Leaves spec why) :
    c.find (some spec) = .error why := by
  rw [find_of_isSearched hsearched]
  cases h with
  | unnamed hpath =>
    rw [hpath.target_eq_error (if_pos rfl) (by decide +kernel)]
    rfl
  | @relative place member hpath hdot =>
    have hnamed : place ≠ "" := by
      rintro rfl
      cases hdot
    have hoffer : c.offer place member = .error (relativeName place) := by
      rw [offer, if_neg (by simpa using hnamed), if_pos hdot]
    rw [hpath.target_eq_error hoffer (by decide +kernel : isLookupFailure (.exception "TypeError" "") = false)]
    rfl
  | @broken place member why hpath hnamed hdot himport hother =>
    have hoffer : c.offer place member = .error why := by
      rw [offer, if_neg (by simpa using hnamed), if_neg (by simp [hdot]), himport]
    rw [hpath.target_eq_error hoffer hother]
    rfl
  | exit hentry hoffer hexit =>
    have htarget : c.ofEntryPoint? spec = .error why := by
      rw [ofEntryPoint?, hentry]
      dsimp only
      rw [hoffer]
      dsimp only
      rw [if_neg (by simp [hexit])]
    rw [target, htarget]
    rfl
  | exitCall hfound hexit =>
    rw [hfound]
    show make spec (.failing why) = _
    rw [make, hexit]
    rfl

/-- **Every search ends** with a backend, with the error that there is none, or with a failure that leaves it. -/
theorem find_cases (c : Catalogue) (spec : Option String) : (∃ b, c.find spec = .ok b) ∨
    (∃ why, c.find spec = .error why ∧ why.isUnavailable = true) ∨
    ∃ text why, spec = some text ∧ c.IsSearched text ∧ c.Leaves text why ∧ c.find spec = .error why := by
  cases spec with
  | none => exact .inr (.inl ⟨_, rfl, rfl⟩)
  | some text =>
    by_cases hempty : text = ""
    · subst hempty
      exact .inr (.inl ⟨_, rfl, rfl⟩)
    cases hbuiltin : lookupEntry text c.builtin with
    | some b =>
      refine .inl ⟨b, ?_⟩
      rw [find, if_neg (by simpa using hempty), hbuiltin]
    | none =>
      have hsearched : c.IsSearched text := ⟨hempty, hbuiltin⟩
      rw [find_of_isSearched hsearched]
      cases htarget : c.target text with
      | error why =>
        rcases target_eq_error htarget with hunavailable | hleaves
        · exact .inr (.inl ⟨why, rfl, hunavailable⟩)
        · exact .inr (.inr ⟨text, why, rfl, hsearched, hleaves, rfl⟩)
      | ok found =>
        show (∃ b, make text found = .ok b) ∨ (∃ why, make text found = .error why ∧ why.isUnavailable = true) ∨
          ∃ text' why, some text = some text' ∧ c.IsSearched text' ∧ c.Leaves text' why ∧ make text found = .error why
        rcases make_cases text found with hmade | hunavailable | ⟨why, rfl, hexit, hfails⟩
        · exact .inl hmade
        · exact .inr (.inl hunavailable)
        · exact .inr (.inr ⟨text, why, rfl, hsearched, .exitCall htarget hexit, hfails⟩)

theorem load_of_ok {b : Backend} (h : c.find spec? = .ok b) (s : Session) : ∃ t, c.load spec? s = .ok b t := by
  unfold load
  rw [h]
  dsimp only [bind, EStateM.bind, ofExcept, pure, EStateM.pure]
  cases c.foundText? (spec?.getD "") b with
  | some text => exact ⟨_, rfl⟩
  | none => exact ⟨s, rfl⟩

/-- A search that fails leaves the session as it is. -/
theorem load_of_error (h : c.find spec? = .error why) (s : Session) : c.load spec? s = .error why s := by
  unfold load
  rw [h]
  rfl

/-- **A search ends with a backend or with the error that none is to be had** exactly if nothing else leaves it; and
what leaves it is what it ends with, the session being as it was. -/
theorem load_settled_iff (c : Catalogue) (spec? : Option String) (s : Session) :
    (((∃ b t, c.load spec? s = .ok b t) ∨ ∃ why, c.load spec? s = .error why s ∧ why.isUnavailable = true) ↔
      ∀ spec why, spec? = some spec → c.IsSearched spec → c.Leaves spec why → why.isUnavailable = true) ∧
    ∀ spec why, spec? = some spec → c.IsSearched spec → c.Leaves spec why → c.load spec? s = .error why s := by
  have hends : ∀ spec why, spec? = some spec → c.IsSearched spec → c.Leaves spec why →
      c.load spec? s = .error why s := by
    rintro spec why rfl hsearched hleaves
    exact load_of_error (find_of_leaves hsearched hleaves) s
  refine ⟨⟨fun hsettled spec why hspec hsearched hleaves => ?_, fun hnone => ?_⟩, hends⟩
  · have hend := hends spec why hspec hsearched hleaves
    rcases hsettled with ⟨b, t, hok⟩ | ⟨other, hother, hunavailable⟩
    · cases hok.symm.trans hend
    · cases hother.symm.trans hend
      exact hunavailable
  · rcases find_cases c spec? with ⟨b, hok⟩ | ⟨why, hfails, hunavailable⟩ | ⟨spec, why, hspec, hsearched, hleaves, hfails⟩
    · obtain ⟨t, ht⟩ := load_of_ok hok s
      exact .inl ⟨b, t, ht⟩
    · exact .inr ⟨why, load_of_error hfails s, hunavailable⟩
    · exact .inr ⟨why, load_of_error hfails s, hnone spec why hspec hsearched hleaves⟩

/-- A colon alone makes a path, in which no module is named. -/
theorem unnamed_isPath : Catalogue.installed.IsPath ":x" "" "x" :=
  ⟨by decide, by decide, by rw [ofEntryPoint?, show Catalogue.installed.entryPoints.find? (·.name = ":x") = none by decide]⟩

/-- The search for it ends with another failure than the error. -/
theorem unnamed_leaves : Catalogue.installed.load (some ":x") {} = .error emptyName {} ∧
    ¬ ((∃ b t, Catalogue.installed.load (some ":x") {} = .ok b t) ∨
      ∃ why, Catalogue.installed.load (some ":x") {} = .error why {} ∧ why.isUnavailable = true) := by
  have hend : Catalogue.installed.load (some ":x") {} = .error emptyName {} :=
    load_of_error (find_of_leaves ⟨by decide, by decide⟩ (.unnamed unnamed_isPath)) {}
  refine ⟨hend, ?_⟩
  rw [hend]
  rintro (⟨b, t, hok⟩ | ⟨why, hfails, hunavailable⟩)
  · cases hok
  · cases hfails
    cases hunavailable

/-! ## Catalogues whose modules can be imported -/

/-- What cannot be found does not leave the program. -/
theorem isOrdinary_of_isLookupFailure (h : isLookupFailure why = true) : why.isOrdinary = true := by
  have hnone : ∀ kind ∈ leavingKinds, (isKind kind "ImportError" || isKind kind "AttributeError") = false := by
    decide +kernel
  have hordinary {kind : String} (hkind : (isKind kind "ImportError" || isKind kind "AttributeError") = true) :
      (!leavingKinds.contains kind) = true := by
    rw [Bool.not_eq_true', List.contains_eq_mem, decide_eq_false_iff_not]
    intro hleaving
    rw [hnone kind hleaving] at hkind
    cases hkind
  cases why with
  | error | invalid => rfl
  | raised | thrown => exact hordinary h

/-- A module that is not there is one that cannot be found. -/
theorem isLookupFailure_of_importFailure (hbroken : c.broken = []) {done : String} {parts : List String}
    (h : c.importFailure? done parts = some why) : isLookupFailure why = true := by
  induction parts generalizing done with
  | nil => cases h
  | cons part rest ih =>
    have hnone (name : String) : lookupEntry name c.broken = none := by
      rw [hbroken]
      rfl
    rw [importFailure?, hnone] at h
    dsimp only at h
    split at h
    · exact ih h
    · cases h
      exact (by decide +kernel : isLookupFailure (.exception "ModuleNotFoundError" "") = true)

/-- What an attribute offers stands in a module. -/
theorem offer_eq_ok (h : c.offer place member = .ok found) :
    ∃ members, (place, members) ∈ c.modules ∧ (member, found) ∈ members := by
  unfold offer at h
  split at h
  · cases h
  split at h
  · cases h
  split at h
  · cases h
  split at h
  · rename_i offered hfound
    cases h
    cases hmembers : lookupEntry place c.modules with
    | none =>
      rw [hmembers] at hfound
      cases hfound
    | some members =>
      rw [hmembers] at hfound
      exact ⟨members, mem_of_lookupEntry hmembers, mem_of_lookupEntry hfound⟩
  · cases h

theorem something?_eq_some {offered : Offer} (h : something? offered = some found) : offered = found := by
  cases offered with
  | nothing => cases h
  | _ => exact Option.some.inj h

theorem offer_of_ofEntryPoint? (h : c.ofEntryPoint? spec = .ok (some found)) :
    ∃ place member offered, c.offer place member = .ok offered ∧ something? offered = some found := by
  unfold ofEntryPoint? at h
  split at h
  · cases h
  rename_i entry _
  split at h
  · rename_i offered hoffer
    exact ⟨entry.place, entry.member, offered, hoffer, Except.ok.inj h⟩
  · cases h

theorem offer_of_ofPath? (h : c.ofPath? spec = .ok (some found)) :
    ∃ place member offered, c.offer place member = .ok offered ∧ something? offered = some found := by
  unfold ofPath? at h
  split at h
  · cases h
  dsimp only at h
  split at h
  · rename_i offered hoffer
    exact ⟨_, _, offered, hoffer, Except.ok.inj h⟩
  · cases h

/-- What a search finds is offered under an entry point or a path. -/
theorem offer_of_target (h : c.target spec = .ok found) :
    ∃ place member offered, c.offer place member = .ok offered ∧ something? offered = some found := by
  unfold target at h
  cases hentry : c.ofEntryPoint? spec with
  | error reason =>
    rw [hentry] at h
    cases h
  | ok offered =>
    rw [hentry] at h
    cases offered with
    | some something =>
      cases h
      exact offer_of_ofEntryPoint? hentry
    | none =>
      change (c.ofPath? spec >>= _) = _ at h
      cases hpath : c.ofPath? spec with
      | error reason =>
        rw [hpath] at h
        cases h
      | ok offered =>
        rw [hpath] at h
        cases offered with
        | none => cases h
        | some something =>
          cases h
          exact offer_of_ofPath? hpath

/-- What a search finds stands in a module. -/
theorem target_eq_ok (h : c.target spec = .ok found) :
    ∃ place member members, (place, members) ∈ c.modules ∧ (member, found) ∈ members := by
  obtain ⟨place, member, offered, hoffer, hfound⟩ := offer_of_target h
  obtain ⟨members, hmodule, hmember⟩ := offer_eq_ok hoffer
  exact ⟨place, member, members, hmodule, something?_eq_some hfound ▸ hmember⟩

/-- All modules can be imported, and nothing that they have leaves the program when it is called. -/
structure IsSound (c : Catalogue) : Prop where
  broken : c.broken = []
  stays : ∀ place members member why, (place, members) ∈ c.modules → (member, .failing why) ∈ members →
    why.isOrdinary = true

/-- Where all modules can be imported, only paths are left that name no module, or one by a relative name, and what
leaves the program when it is called. -/
theorem Leaves.of_unbroken (hbroken : c.broken = []) (h : c.Leaves spec why) :
    (∃ member, c.IsPath spec "" member ∧ why = emptyName) ∨
      (∃ place member, c.IsPath spec place member ∧ beginsWith place "." = true ∧ why = relativeName place) ∨
      (c.target spec = .ok (.failing why) ∧ why.isOrdinary = false) := by
  cases h with
  | unnamed hpath => exact .inl ⟨_, hpath, rfl⟩
  | relative hpath hdot => exact .inr (.inl ⟨_, _, hpath, hdot, rfl⟩)
  | broken hpath hnamed hdot himport hother =>
    rw [isLookupFailure_of_importFailure hbroken himport] at hother
    cases hother
  | exit hentry hoffer hexit =>
    rcases offer_eq_error hoffer with ⟨-, rfl⟩ | ⟨-, rfl⟩ | ⟨-, -, himport⟩ | hlookup
    · cases hexit
    · cases hexit
    · rw [isOrdinary_of_isLookupFailure (isLookupFailure_of_importFailure hbroken himport)] at hexit
      cases hexit
    · rw [isOrdinary_of_isLookupFailure hlookup] at hexit
      cases hexit
  | exitCall hfound hexit => exact .inr (.inr ⟨hfound, hexit⟩)

/-- In a catalogue of such modules only paths are left that name no module, or one by a relative name. -/
theorem Leaves.of_isSound (hsound : c.IsSound) (h : c.Leaves spec why) : why.isUnavailable = false ∧
    ∃ place member, c.IsPath spec place member ∧ (place = "" ∨ beginsWith place "." = true) := by
  rcases h.of_unbroken hsound.broken with ⟨_, hpath, rfl⟩ | ⟨_, _, hpath, hdot, rfl⟩ | ⟨hfound, hexit⟩
  · exact ⟨rfl, _, _, hpath, .inl rfl⟩
  · exact ⟨rfl, _, _, hpath, .inr hdot⟩
  · obtain ⟨place, member, members, hmodule, hmember⟩ := target_eq_ok hfound
    rw [hsound.stays _ _ _ _ hmodule hmember] at hexit
    cases hexit

/-- **In a catalogue of such modules** a search ends with a backend or with the error that none is to be had exactly if
its specification is no path in which no module is named, or one by a relative name. -/
theorem load_settled_iff_named (hsound : c.IsSound) (spec? : Option String) (s : Session) :
    ((∃ b t, c.load spec? s = .ok b t) ∨ ∃ why, c.load spec? s = .error why s ∧ why.isUnavailable = true) ↔
      ∀ spec place member, spec? = some spec → c.IsSearched spec → c.IsPath spec place member →
        place ≠ "" ∧ beginsWith place "." = false := by
  rw [(load_settled_iff c spec? s).1]
  constructor
  · intro hsettled spec place member hspec hsearched hpath
    refine ⟨?_, ?_⟩
    · rintro rfl
      cases hsettled spec _ hspec hsearched (.unnamed hpath)
    · by_contra hdot
      cases hsettled spec _ hspec hsearched (.relative hpath (by simpa using hdot))
  · intro hnamed spec why hspec hsearched hleaves
    obtain ⟨-, place, member, hpath, hplace⟩ := hleaves.of_isSound hsound
    obtain ⟨hnonempty, hdot⟩ := hnamed spec place member hspec hsearched hpath
    rcases hplace with hempty | hrelative
    · exact absurd hempty hnonempty
    · cases hdot.symm.trans hrelative

end Catalogue

end UnitFoundry
