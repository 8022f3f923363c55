import UnitFoundry.Proofs.Session.Keys
import UnitFoundry.Proofs.UnitName.Sources

/-!
# Units by a look at all slots

The registry has one slot for each canonical name, so that instead of looking a name up one may also look at all
active contexts for one with the same canonical name. Markers stand behind the last dot of a name: contexts in other
packages than the one of the name need not be looked at. Both ways find the same, as long as the names of the active
contexts consist of one line. A name with a line feed can be a slot without being its own canonical name.

* `Session.Slotted` — there is one slot for each name;
* `Session.NamedByLines` — the names of the active contexts consist of one line;
* `package_canonical` — generations of a unit are in one package;
* `isSome_find?_iff` — **both ways find the same**.
-/

namespace UnitFoundry

open Script Text

/-- A name and its canonical name are in the same package. -/
theorem UnitName.package_canonical (name : String) : package (canonical name) = package name := by
  rw [package, toList_canonical, cutLast_canonicalChars, package]

namespace Session

variable {s t : Session} {id : ContextId} {c : Context} {name : String}

/-! ## One slot for each name -/

/-- The slots of the registry are for different names. -/
def Slotted (s : Session) : Prop := (s.registry.entries.map (·.1)).Nodup

theorem Slotted.replace (h : s.Slotted) (canonical : String) (id : ContextId) :
    Slotted { s with registry := s.registry.replace canonical id } := by
  rw [Slotted, Registry.entries_replace]
  exact nodup_setEntry h canonical id

/-- To keep the slots apart. -/
def slotting : Discipline where
  inv := Slotted
  rel _ _ := True
  fails _ := True
  refl _ := trivial
  trans _ _ := trivial
  raised _ := trivial
  thrown _ _ := trivial
  own := by
    rintro s _ ⟨⟩ h
    all_goals exact ⟨h, trivial⟩

theorem slotting_hosts : slotting.Hosts where
  quiet _ _ _ hs := ⟨hs, trivial⟩
  unusable _ _ := trivial
  room _ := trivial
  ran {s s₁ t id c m body result} hs _ _ _ hnew hbody hrun := by
    obtain ⟨rfl, unit, made, rfl⟩ := Action.newUnitModule_eq_ok hnew
    have hstart : Slotted
        (Session.begun { s with made, modules := s.modules ++ [unit] } id s.modules.length) := hs
    exact ⟨((Discipline.keeps_attempt hbody).ok hstart hrun).1, trivial⟩

/-- The steps of emission keep the slots apart. -/
def slottingCompiling : Compiling where
  toDiscipline := slotting
  aside {s t} h hs := ⟨show Slotted t by rw [Slotted, h.registry]; exact hs, trivial⟩
  created _ _ _ hs := ⟨hs, trivial⟩
  opened _ _ _ _ hs := ⟨hs, trivial⟩
  written _ _ _ _ _ _ hs := ⟨hs, trivial⟩
  sealed _ _ _ _ _ hs := ⟨hs, trivial⟩
  published _ _ c _ _ hs := ⟨hs.replace c.canonical _, trivial⟩
  lenient _ := trivial
  materializes := slotting_hosts.materializes

theorem slotting_perform (operation : Operation) : slotting.Keeps operation.perform :=
  keeps_perform slottingCompiling (fun _ _ => ⟨List.nodup_nil, trivial⟩) operation

/-- **In a reachable session there is one slot for each name.** -/
theorem Reachable.slotted (h : s.Reachable) : s.Slotted := by
  refine h.inv (fun t hfresh => ?_) slotting_perform
  show Slotted t
  rw [Slotted, hfresh.registry]
  exact List.nodup_nil

/-! ## Active contexts -/

/-- The active contexts, in the order of the registry. -/
def active (s : Session) : List Context := s.registry.contexts.filterMap (s.contexts[·]?)

theorem mem_active : c ∈ s.active ↔ ∃ id ∈ s.registry.contexts, s.contexts[id]? = some c := List.mem_filterMap

/-- What a name leads to is an active context that has it for its canonical name. -/
theorem Keyed.exists_active (h : s.Keyed) (hid : s.registry.lookup? name = some id) :
    ∃ c ∈ s.active, c.canonical = name := by
  obtain ⟨c, hc, hcanonical⟩ := h name id hid
  exact ⟨c, mem_active.2 ⟨id, Registry.mem_contexts_of_lookup? hid, hc⟩, hcanonical⟩

/-- An active context is found under its canonical name. -/
theorem Keyed.isSome_lookup?_canonical (h : s.Keyed) (hslotted : s.Slotted) (hc : c ∈ s.active) :
    (s.registry.lookup? c.canonical).isSome = true := by
  obtain ⟨id, hid, hget⟩ := mem_active.1 hc
  obtain ⟨⟨key, other⟩, hentry, rfl⟩ := List.mem_map.1 hid
  have hlookup : s.registry.lookup? key = some other := lookupEntry_of_mem hslotted hentry
  obtain ⟨d, hd, rfl⟩ := h key other hlookup
  obtain rfl : d = c := Option.some.inj (hd.symm.trans hget)
  rw [hlookup, Option.isSome_some]

/-- The names of the active contexts consist of one line. -/
def NamedByLines (s : Session) : Prop := ∀ c ∈ s.active, '\n' ∉ c.qualified.toList

instance (s : Session) : Decidable s.NamedByLines := List.decidableBAll _ _

/-- **A unit is found just if an active context has its canonical name.** -/
theorem isSome_find?_iff (hkeyed : s.Keyed) (hslotted : s.Slotted) (hlines : s.NamedByLines) (name : String) :
    (s.registry.find? name).isSome = true ↔ ∃ c ∈ s.active, c.canonical = UnitName.canonical name := by
  rw [Registry.find?]
  constructor
  · intro h
    cases hexact : s.registry.lookup? name with
    | none =>
      rw [hexact, Option.none_or] at h
      obtain ⟨id, hid⟩ := Option.isSome_iff_exists.1 h
      exact hkeyed.exists_active hid
    | some id =>
      -- the name is the slot of a context, and settled as such
      obtain ⟨c, hc, rfl⟩ := hkeyed.exists_active hexact
      have hsettled := UnitName.canonical_of_canonical (UnitName.break_notMem_canonical (hlines c hc))
      exact ⟨c, hc, hsettled.symm⟩
  · rintro ⟨c, hc, hcanonical⟩
    have hlookup := hkeyed.isSome_lookup?_canonical hslotted hc
    rw [hcanonical] at hlookup
    rw [Option.isSome_or, hlookup]
    exact Bool.or_true _

end Session

end UnitFoundry
