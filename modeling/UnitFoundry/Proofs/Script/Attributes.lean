import UnitFoundry.Proofs.Script.Frames

/-!
# What is taken out of bundles and libraries

Bundles and modules that are no units have their names and nothing else: no type of a script says how their
attributes are found, and no operation stands in for those that are missing. So what is taken out of them
depends on them alone, and to take it changes nothing, but that a list may have to be made.

* `attributeOf_own`, `attributeOf_missing` — attributes that nothing but the value itself decides about;
* `attributeOf_bundle`, `attributeOf_bundle_none` — the names of a bundle;
* `Taken`, `Taken.Shows` — what is taken out: a value that is there, or an object made for it;
* `importedName_library` — **what is taken out of a module that is no unit**;
* `bindNames_taken` — names are bound to what was taken.
-/

namespace UnitFoundry

open Script Text

namespace Session

variable {s t u : Session}

/-- The objects are as they were; there may be more. -/
def KeepsObjects (s t : Session) : Prop :=
  ∀ (id : ObjectId) (o : Object), s.objects[id]? = some o → t.objects[id]? = some o

theorem KeepsObjects.refl (s : Session) : KeepsObjects s s := fun _ _ h => h

theorem KeepsObjects.trans (hst : KeepsObjects s t) (htu : KeepsObjects t u) : KeepsObjects s u :=
  fun id o h => htu id o (hst id o h)

theorem KeepsObjects.push (s : Session) (o : Object) :
    KeepsObjects s { s with objects := s.objects.push o } := by
  intro id p hp
  obtain ⟨hlt, rfl⟩ := Array.getElem?_eq_some_iff.1 hp
  exact Array.getElem?_push_lt hlt

end Session

namespace Script

variable {engine : Engine} {s t : Session} {id : ObjectId} {entries : List (String × Value)} {name : String}
  {value found : Value}

/-! ## Attributes that the value itself decides about -/

/-- An attribute that a value has. -/
theorem attributeOf_own (hspecial : special? engine value "__getattribute__" s = .ok none s)
    (hown : ownAttribute? value name s = .ok (some found) t) :
    attributeOf engine value name s = .ok found t := by
  have hfirst : attributeAtFirst engine value name s = .ok found t :=
    (Action.bind_ok hspecial).trans (Action.bind_ok hown)
  exact Action.bind_ok (Action.attempt_ok hfirst)

/-- An attribute that a value does not have, and that nothing stands in for. -/
theorem attributeOf_missing {owner : String}
    (hspecial : special? engine value "__getattribute__" s = .ok none s)
    (hown : ownAttribute? value name s = .ok none s) (howner : ownerText value s = .ok owner s)
    (hfallback : fallback? engine value s = .ok none s) :
    attributeOf engine value name s =
      .error (.exception "AttributeError" (owner ++ " has no attribute '" ++ name ++ "'")) s := by
  have hfirst : attributeAtFirst engine value name s =
      .error (.exception "AttributeError" (owner ++ " has no attribute '" ++ name ++ "'")) s := by
    have hmissing : missingAttribute value name s =
        .ok (.exception "AttributeError" (owner ++ " has no attribute '" ++ name ++ "'")) s :=
      Action.bind_ok howner
    exact (Action.bind_ok hspecial).trans ((Action.bind_ok hown).trans (Action.bind_ok hmissing))
  exact (Action.bind_ok (Action.attempt_error hfirst)).trans (Action.bind_ok hfallback)

theorem attributeOf?_some (h : attributeOf engine value name s = .ok found t) :
    attributeOf? engine value name s = .ok (some found) t :=
  Action.bind_ok (Action.attempt_ok h)

theorem attributeOf?_none {f : Failure} (h : attributeOf engine value name s = .error f s)
    (hf : isMissing f = true) : attributeOf? engine value name s = .ok none s := by
  have hignored : (if isMissing f then pure none else throw f : Action (Option Value)) s = .ok none s := by
    rw [if_pos hf]
    rfl
  exact (Action.bind_ok (Action.attempt_error h)).trans hignored

/-- What has an attribute gives it to an import. -/
theorem importedName_some (h : attributeOf engine value name s = .ok found t) :
    importedName engine value name s = .ok found t :=
  Action.bind_ok (attributeOf?_some h)

/-! ## Bundles -/

/-- No type of a script says anything about a bundle. -/
theorem special?_bundle (hid : s.objects[id]? = some (.bundle entries)) (name : String) :
    special? engine (.object id) name s = .ok none s := by
  have hmember : member? (.object id) name s = .ok none s := by
    have hobject : Action.object? (.object id) s = .ok (some (.bundle entries)) s := by
      rw [Action.object?, map_eq_pure_bind, Action.bind_ok (Action.object_some hid)]
      rfl
    rw [member?, Action.bind_ok hobject]
    rfl
  rw [special?, Action.bind_ok hmember]
  rfl

theorem ownAttribute?_bundle (hid : s.objects[id]? = some (.bundle entries)) (hclass : name ≠ "__class__")
    (hdict : name ≠ "__dict__") :
    ownAttribute? (.object id) name s = .ok (lookupEntry name entries) s := by
  have hobject : objectAttribute? (.object id) (.bundle entries) name s =
      .ok (lookupEntry name entries) s := by
    rw [objectAttribute?, if_neg hdict]
    rfl
  rw [ownAttribute?, if_neg hclass]
  exact (Action.bind_ok (Action.object_some hid)).trans hobject

/-- The attributes of a bundle are its entries. -/
theorem attributeOf_bundle (hid : s.objects[id]? = some (.bundle entries)) (hclass : name ≠ "__class__")
    (hdict : name ≠ "__dict__") (hentry : lookupEntry name entries = some value) :
    attributeOf engine (.object id) name s = .ok value s := by
  have hown := ownAttribute?_bundle hid hclass hdict
  rw [hentry] at hown
  exact attributeOf_own (special?_bundle hid _) hown

/-- Other attributes are not there. -/
theorem attributeOf_bundle_none (engine : Engine) (hid : s.objects[id]? = some (.bundle entries)) (hclass : name ≠ "__class__")
    (hdict : name ≠ "__dict__") (hentry : lookupEntry name entries = none) :
    ∃ f, attributeOf engine (.object id) name s = .error f s := by
  have hown := ownAttribute?_bundle hid hclass hdict
  rw [hentry] at hown
  have howner : ownerText (.object id) s = .ok ("'" ++ clipped 50 bundleKind ++ "' object") s := by
    rw [ownerText, Action.bind_ok (Action.object_some hid)]
    rfl
  exact ⟨_, attributeOf_missing (special?_bundle hid _) hown howner (special?_bundle hid _)⟩

/-! ## Libraries -/

/-- What is taken out of a value: a value that is there, an object that is made for it, or nothing. -/
inductive Taken where
  | there (v : Value)
  | made (o : Object)
  | failed (f : Failure)

namespace Taken

/-- The taking. -/
def act : Taken → Action Value
  | there v => pure v
  | made o => Action.newObject o
  | failed f => throw f

/-- A value is what was taken, in a session. -/
def Shows (taken : Taken) (s : Session) (v : Value) : Prop :=
  match taken with
  | there w => v = w
  | made o => ∃ id, v = .object id ∧ s.objects[id]? = some o
  | failed _ => False

end Taken

theorem Taken.Shows.mono {k : Taken} {v : Value} (h : k.Shows s v) (hst : s.KeepsObjects t) : k.Shows t v := by
  cases k with
  | there w => exact h
  | made o =>
    obtain ⟨id, rfl, hid⟩ := h
    exact ⟨id, rfl, hst id o hid⟩
  | failed f => exact h

/-- What was taken is shown by what the taking gives, unless it fails. Objects may be made. -/
theorem Taken.act_cases (k : Taken) (s : Session) :
    (∃ v objects, k.act s = .ok v { s with objects } ∧ k.Shows { s with objects } v ∧
      s.KeepsObjects { s with objects }) ∨ ∃ f, k = .failed f ∧ k.act s = .error f s := by
  cases k with
  | there v => exact .inl ⟨v, s.objects, rfl, rfl, .refl s⟩
  | made o => exact .inl ⟨_, _, rfl, ⟨_, rfl, Array.getElem?_push_size⟩, .push s o⟩
  | failed f => exact .inr ⟨f, rfl, rfl⟩

namespace Library

/-- The list of what a library offers, if it is asked for and there is one. -/
def listed? (which : Library) (name : String) : Option (List Value) :=
  if name = "__all__" then which.offered?.map fun names => names.map Value.text else none

/-- What an import takes out of a library, under a name. -/
def taken (which : Library) (name : String) : Taken :=
  if name = "__class__" then .there (.builtinType "module")
  else
    match which.entry? name, which.listed? name, ofName? (which.name ++ "." ++ name) with
    | some found, _, _ => .there found
    | none, some items, _ => .made (.list items)
    | none, none, some library => .there (.library library)
    | none, none, none => .failed (.exception "ImportError"
        ("cannot import name " ++ quote name ++ " from " ++ quote which.name ++ " (" ++
          which.file?.getD "unknown location" ++ ")"))

/-- Whether a value is no unit. -/
def isForeign : Value → Bool
  | .module _ => false
  | _ => true

theorem all_ofKind (kind names : String) :
    (ofKind kind names).all (fun entry => isForeign entry.2) = true := by
  simp [ofKind, isForeign]

theorem all_entries (which : Library) : which.entries.all (fun entry => isForeign entry.2) = true := by
  have hpaths : pathTexts.all (fun entry => isForeign entry.2) = true := rfl
  cases which with
  | json =>
    simp only [entries, jsonEntries, List.all_append, all_ofKind, Bool.and_true]
    rfl
  | os =>
    simp only [entries, osEntries, List.all_append, all_ofKind, hpaths, Bool.true_and, Bool.and_true]
    rfl
  | path =>
    simp only [entries, pathEntries, List.all_append, all_ofKind, hpaths, Bool.true_and, Bool.and_true]
    rfl
  | math => simp only [entries, mathEntries, List.all_append, all_ofKind, Bool.and_true]
  | main => rfl

/-- The names of a library are bound to no units. -/
theorem entry?_foreign {which : Library} (h : which.entry? name = some value) : isForeign value = true := by
  unfold entry? at h
  split at h
  · cases h
    rfl
  · obtain ⟨file, -, rfl⟩ := Option.map_eq_some_iff.1 h
    rfl
  · cases h
    rfl
  · obtain ⟨before, after, hentries, -⟩ := List.lookup_eq_some_iff.1 h
    have hall := List.all_eq_true.1 (all_entries which)
    exact hall (name, value) (by simp [hentries])

/-- No unit is taken out of a library. -/
theorem not_shows_module (which : Library) (name : String) (m : ModuleId) (s : Session) :
    ¬ (which.taken name).Shows s (.module m) := by
  unfold taken
  split
  · rintro ⟨⟩
  · split
    · rename_i found hentry
      intro hshown
      obtain rfl : Value.module m = found := hshown
      cases entry?_foreign hentry
    · rintro ⟨id, hid, -⟩
      cases hid
    · rintro ⟨⟩
    · exact id

end Library

theorem ownAttribute?_library (which : Library) (hclass : name ≠ "__class__") (s : Session) :
    ownAttribute? (.library which) name s =
      match which.entry? name, which.listed? name with
      | some found, _ => .ok (some found) s
      | none, some items => (some <$> Action.newObject (.list items) : Action (Option Value)) s
      | none, none => .ok none s := by
  rw [ownAttribute?, if_neg hclass]
  cases which.entry? name with
  | some found => rfl
  | none =>
    unfold Library.listed?
    cases which.offered? with
    | none => by_cases hall : name = "__all__" <;> simp [hall]
    | some names =>
      by_cases hall : name = "__all__"
      · simp [hall]
      · simp [hall]

/-- **What an import takes out of a module that is no unit** depends on this module and the name alone. -/
theorem importedName_library (engine : Engine) (which : Library) (name : String) (s : Session) :
    importedName engine (.library which) name s = (which.taken name).act s := by
  have hspecial (name : String) : special? engine (.library which) name s = .ok none s := rfl
  unfold Library.taken
  by_cases hclass : name = "__class__"
  · rw [if_pos hclass]
    subst hclass
    exact importedName_some (attributeOf_own (hspecial _) rfl)
  rw [if_neg hclass]
  have hown := ownAttribute?_library which hclass s
  cases hentry : which.entry? name with
  | some found =>
    rw [hentry] at hown
    exact importedName_some (attributeOf_own (hspecial _) hown)
  | none =>
    rw [hentry] at hown
    cases hlisted : which.listed? name with
    | some items =>
      rw [hlisted] at hown
      exact importedName_some (attributeOf_own (hspecial _) hown)
    | none =>
      rw [hlisted] at hown
      have hmissing : attributeOf engine (.library which) name s = _ :=
        attributeOf_missing (hspecial _) hown rfl (hspecial _)
      have hname : attributeOf engine (.library which) "__name__" s = .ok (.text which.name) s :=
        attributeOf_own (hspecial _) (ownAttribute?_library which (by decide) s)
      have hsource : sourceName engine (.library which) s = .ok which.name s :=
        Action.bind_ok (attributeOf?_some hname)
      refine (Action.bind_ok (attributeOf?_none hmissing rfl)).trans ?_
      refine (Action.bind_ok hsource).trans ?_
      have hfile : sourceFile (.library which) s = .ok (which.file?.getD "unknown location") s := rfl
      refine (Action.bind_ok hfile).trans ?_
      cases Library.ofName? (which.name ++ "." ++ name) with
      | some library => rfl
      | none => rfl

/-! ## Names that are bound to what was taken -/

section Bound

variable {r q : Running} {from_ : ContextId} {names : List String} {taken : String → Taken}

/-- Names are bound to what was taken under them. -/
structure BindsTaken (taken : String → Taken) (names : List String) (r q : Running) : Prop where
  objects : r.session.KeepsObjects q.session
  bound : ∀ name ∈ names, ∃ v, q.bound? name = some v ∧ (taken name).Shows q.session v
  others : ∀ name, privateName r.frame.owner name ∉ names → q.bound? name = r.bound? name

/-- The first name is bound, and then the others. -/
theorem BindsTaken.cons {first : String} {objects : Array Object} (hr : r.Within from_)
    (hfirst : privateName r.frame.owner first = first) (hkept : r.session.KeepsObjects { r.session with objects })
    (hshows : (taken first).Shows { r.session with objects } value)
    (h : BindsTaken taken names
      (Running.binding { r with session := { r.session with objects } } first value) q) :
    BindsTaken taken (first :: names) r q := by
  have hwithin : Running.Within { r with session := { r.session with objects } } from_ := hr
  have hobjects : Session.KeepsObjects { r.session with objects } q.session := by
    have hrest := h.objects
    unfold Session.KeepsObjects at hrest ⊢
    rwa [Running.binding_objects] at hrest
  refine ⟨hkept.trans hobjects, fun name hname => ?_, fun name hname => ?_⟩
  · by_cases hmem : name ∈ names
    · exact h.bound name hmem
    · obtain rfl : name = first := (List.mem_cons.1 hname).resolve_right hmem
      refine ⟨value, ?_, hshows.mono hobjects⟩
      rw [h.others name (by rwa [Running.binding_owner, hfirst]), Running.bound?_binding_self hwithin]
  · rw [List.mem_cons, not_or] at hname
    rw [h.others name (by rw [Running.binding_owner]; exact hname.2), Running.bound?_binding hwithin,
      if_neg (by rw [hfirst]; exact hname.1)]
    rfl

/-- Names that are taken out of a value are bound to what was taken, unless something fails. -/
theorem bindNames_taken (hr : r.Within from_) (hplain : ∀ name ∈ names, privateName r.frame.owner name = name)
    (hkeeps : s.KeepsObjects r.session)
    (htaken : ∀ name ∈ names, ∀ t : Session, s.KeepsObjects t →
      importedName engine value name t = (taken name).act t) :
    (∃ q, bindNames engine value (names.map fun name => (name, none)) r = .ok ⟨⟩ q ∧
      BindsTaken taken names r q) ∨
    ∃ name ∈ names, ∃ f q, taken name = .failed f ∧
      bindNames engine value (names.map fun name => (name, none)) r = .error f q := by
  induction names generalizing r with
  | nil => exact .inl ⟨r, rfl, .refl _, by simp, fun _ _ => rfl⟩
  | cons first rest ih =>
    have hfirst : privateName r.frame.owner first = first := hplain first List.mem_cons_self
    have himported := htaken first List.mem_cons_self r.session hkeeps
    have hstep : bindNames engine value ((first :: rest).map fun name => (name, none)) r =
        (Run.lift (importedName engine value first) >>= fun found => do
          Run.bind first found
          bindNames engine value (rest.map fun name => (name, none)) : Run Unit) r := by
      rw [List.map_cons, bindNames, Run.bind_ok (Run.known_apply first r), hfirst]
      rfl
    rcases (taken first).act_cases r.session with ⟨v, objects, hact, hshows, hkept⟩ | ⟨f, hfailed, hact⟩
    · have hlift : Run.lift (importedName engine value first) r =
          .ok v { r with session := { r.session with objects } } := Run.lift_ok (himported.trans hact)
      have hwithin : Running.Within { r with session := { r.session with objects } } from_ := hr
      have hplain' : ∀ name ∈ rest, privateName (Running.binding { r with
          session := { r.session with objects } } first v).frame.owner name = name := by
        rw [Running.binding_owner]
        exact fun name hname => hplain name (List.mem_cons_of_mem first hname)
      have hkeeps' : s.KeepsObjects (Running.binding { r with
          session := { r.session with objects } } first v).session := by
        unfold Session.KeepsObjects
        rw [Running.binding_objects]
        exact hkeeps.trans hkept
      rw [hstep, Run.bind_ok hlift, Run.bind_ok (Running.bind_apply first v _)]
      rcases ih (hwithin.binding first v) hplain' hkeeps'
          fun name hname => htaken name (List.mem_cons_of_mem first hname) with
        ⟨q, hq, hbinds⟩ | ⟨name, hname, hrest⟩
      · exact .inl ⟨q, hq, .cons hr hfirst hkept hshows hbinds⟩
      · exact .inr ⟨name, List.mem_cons_of_mem first hname, hrest⟩
    · have hlift : Run.lift (importedName engine value first) r = .error f r :=
        Run.lift_error (himported.trans hact)
      refine .inr ⟨first, List.mem_cons_self, f, r, hfailed, ?_⟩
      rw [hstep, Run.bind_error hlift]

end Bound

end Script

end UnitFoundry
