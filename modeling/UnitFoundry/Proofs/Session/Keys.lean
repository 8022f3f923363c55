import UnitFoundry.Proofs.Session.Reachable
import UnitFoundry.Proofs.UnitName

/-!
# What the slots of the registry lead to

A context is published under its canonical name and keeps its name from then on, so a slot of the registry
leads to a context whose canonical name it is. A name that is searched for is looked up as it is first. If
something is found there, the name is a canonical one; and a canonical name that consists of one line is its
own, so that nothing else can be found in this way than under the canonical name.

* `Session.Keyed` — every slot leads to a context with this canonical name;
* `Reachable.keyed` — **this is so in every reachable session**;
* `Keyed.find?_eq`, `Keyed.find?_canonical` — **a unit is found under each of its names** if they consist of
  one line.
-/

namespace UnitFoundry.Session

open Script Text

variable {s t : Session} {id : ContextId} {name : String}

/-- Every slot of the registry leads to a context whose canonical name it is. -/
def Keyed (s : Session) : Prop :=
  ∀ key id, s.registry.lookup? key = some id → ∃ c, s.contexts[id]? = some c ∧ c.canonical = key

namespace Keyed

theorem congr (h : s.Keyed) (hr : t.registry = s.registry)
    (hc : ∀ (id : ContextId) (c : Context), s.contexts[id]? = some c →
      ∃ d : Context, t.contexts[id]? = some d ∧ d.qualified = c.qualified) : t.Keyed := by
  intro key id hid
  obtain ⟨c, hget, hkey⟩ := h key id (hr ▸ hid)
  obtain ⟨d, hd, hq⟩ := hc id c hget
  exact ⟨d, hd, (congrArg UnitName.canonical hq).trans hkey⟩

/-- Contexts and registry are as they were. -/
theorem same (h : s.Keyed) (hr : t.registry = s.registry) (hc : t.contexts = s.contexts) : t.Keyed :=
  h.congr hr fun _ c hget => ⟨c, hc ▸ hget, rfl⟩

/-- One more context is made. -/
theorem concat (h : s.Keyed) (hr : t.registry = s.registry) {made : Context}
    (hc : t.contexts = s.contexts ++ [made]) : t.Keyed := by
  refine h.congr hr fun id c hget => ⟨c, ?_, rfl⟩
  rw [hc, List.getElem?_append_left (List.getElem?_eq_some_iff.1 hget).1]
  exact hget

/-- A context is changed in other respects than its name. -/
theorem modify (h : s.Keyed) (hr : t.registry = s.registry) {change : Context → Context}
    (hc : t.contexts = s.contexts.modify id change)
    (hchange : ∀ c, (change c).qualified = c.qualified) : t.Keyed := by
  refine h.congr hr fun other c hget => ?_
  rw [hc, List.getElem?_modify, hget]
  by_cases hid : id = other
  · exact ⟨change c, by simp [hid], hchange c⟩
  · exact ⟨c, by simp [hid], rfl⟩

/-- A context is published. -/
theorem replace {c : Context} (h : s.Keyed) (hc : s.contexts[id]? = some c) :
    Keyed { s with registry := s.registry.replace c.canonical id } := by
  intro key other hother
  rw [Registry.lookup?_replace] at hother
  split at hother
  · rename_i hkey
    cases hother
    exact ⟨c, hc, hkey.symm⟩
  · exact h key other hother

end Keyed

/-- To keep all slots to canonical names. -/
def keying : Discipline where
  inv := Keyed
  rel _ _ := True
  fails _ := True
  refl _ := trivial
  trans _ _ := trivial
  raised _ := trivial
  thrown _ _ := trivial
  own := by
    rintro s _ ⟨⟩ h
    all_goals exact ⟨h.same rfl rfl, trivial⟩

theorem keying_hosts : keying.Hosts where
  quiet _ _ _ hs := ⟨hs.same rfl rfl, trivial⟩
  unusable _ _ := trivial
  room _ := trivial
  ran {s s₁ t id c m body result} hs _ _ _ hnew hbody hrun := by
    obtain ⟨rfl, unit, made, rfl⟩ := Action.newUnitModule_eq_ok hnew
    have hstart : Keyed
        (Session.begun { s with made, modules := s.modules ++ [unit] } id s.modules.length) :=
      hs.modify rfl rfl fun _ => rfl
    have ht : t.Keyed := ((Discipline.keeps_attempt hbody).ok hstart hrun).1
    refine ⟨ht.modify rfl rfl fun c => ?_, trivial⟩
    cases Exit.of result with
    | completed => rfl
    | failed => rfl
    | left => rfl

/-- The steps of emission publish contexts under their canonical names. -/
def keyingCompiling : Compiling where
  toDiscipline := keying
  aside h hs := ⟨hs.same h.registry h.contexts, trivial⟩
  created _ _ _ hs := ⟨hs.concat rfl rfl, trivial⟩
  opened _ _ _ _ hs := ⟨hs.concat rfl rfl, trivial⟩
  written _ _ _ _ _ _ hs := ⟨hs.same rfl rfl, trivial⟩
  sealed _ _ _ _ _ hs := ⟨hs.modify rfl rfl fun _ => rfl, trivial⟩
  published _ _ _ hc _ hs := ⟨hs.replace hc, trivial⟩
  lenient _ := trivial
  materializes := keying_hosts.materializes

/-- An empty registry has no slots. -/
theorem Keyed.of_empty (h : s.registry = {}) : s.Keyed := by
  intro key id hid
  rw [h] at hid
  cases hid

theorem keying_perform (operation : Operation) : keying.Keeps operation.perform :=
  keeps_perform keyingCompiling (fun _ _ => ⟨.of_empty rfl, trivial⟩) operation

/-- **In a reachable session every slot leads to a context with this canonical name.** -/
theorem Reachable.keyed (h : s.Reachable) : s.Keyed :=
  h.inv (fun _ hfresh => Keyed.of_empty hfresh.registry) keying_perform

/-! ## Units by name -/

/-- What is found under a name that consists of one line is what its canonical name leads to. -/
theorem Keyed.find?_eq (h : s.Keyed) (hname : '\n' ∉ name.toList) :
    s.registry.find? name = s.registry.lookup? (UnitName.canonical name) := by
  rw [Registry.find?]
  cases hid : s.registry.lookup? name with
  | none => rfl
  | some id =>
    obtain ⟨c, -, hc⟩ := h name id hid
    have hself : UnitName.canonical name = name := by
      rw [← hc] at hname ⊢
      exact UnitName.canonical_of_canonical hname
    rw [hself, hid]
    rfl

/-- The same is found under the canonical name. -/
theorem Keyed.find?_canonical (h : s.Keyed) (hname : '\n' ∉ name.toList) :
    s.registry.find? (UnitName.canonical name) = s.registry.lookup? (UnitName.canonical name) := by
  have hcanonical := UnitName.break_notMem_canonical hname
  rw [h.find?_eq hcanonical, UnitName.canonical_of_canonical hcanonical]

end UnitFoundry.Session
