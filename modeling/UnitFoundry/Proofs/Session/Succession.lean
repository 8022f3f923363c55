import UnitFoundry.Proofs.Emission.Operations

/-!
# The succession of contexts

A context that is published takes the place of the one that is active under its canonical name, which is given back.
So no context is lost and none is displaced twice: at any time those that were given back and those that are active
are the ones that were published. Under each name every context gives back the one before it.

* `Registry.displaced`, `Registry.after` — what publications give back, and what they lead to;
* `Registry.displaced_perm` — **no context is lost**, starting from any registry;
* `Registry.displaced_under` — under each name, every context gives back the one before it;
* `mapM_replace` — the publications of a session are those of its registry;
* `publications_conserve` — the laws put together, for publications into an empty registry.
-/

namespace UnitFoundry

open Script
open scoped List

namespace Registry

/-! ## Publications into a registry -/

/-- What publications give back, one after the other: the context that was active under the name. -/
def displaced : Registry → List (String × ContextId) → List (Option ContextId)
  | _, [] => []
  | r, (name, context) :: rest => r.lookup? name :: displaced (r.replace name context) rest

/-- A registry after publications. -/
def after (r : Registry) (published : List (String × ContextId)) : Registry :=
  published.foldl (fun r entry => r.replace entry.1 entry.2) r

variable {r : Registry}

theorem length_displaced (r : Registry) (published : List (String × ContextId)) :
    (r.displaced published).length = published.length := by
  induction published generalizing r with
  | nil => rfl
  | cons entry rest ih => exact congrArg (· + 1) (ih (r.replace entry.1 entry.2))

/-- One publication gives back a context, or none, and makes another one active. -/
theorem perm_replace (r : Registry) (name : String) (context : ContextId) :
    ((r.lookup? name).toList ++ (r.replace name context).contexts).Perm (context :: r.contexts) := by
  rw [contexts, entries_replace]
  exact perm_setEntry name context r.entries

/-- **No context is lost**: those that were given back, and those that are active in the end, are the ones that were
active before and the ones that were published. -/
theorem displaced_perm (r : Registry) (published : List (String × ContextId)) :
    ((r.displaced published).filterMap id ++ (r.after published).contexts).Perm
      (r.contexts ++ published.map (·.2)) := by
  induction published generalizing r with
  | nil => exact .of_eq (List.append_nil _).symm
  | cons entry rest ih =>
    obtain ⟨name, context⟩ := entry
    have hfirst : ((displaced r ((name, context) :: rest)).filterMap id) =
        (r.lookup? name).toList ++ ((r.replace name context).displaced rest).filterMap id := by
      rw [displaced, List.filterMap_cons]
      cases r.lookup? name <;> rfl
    calc (displaced r ((name, context) :: rest)).filterMap id ++ (r.after ((name, context) :: rest)).contexts
      _ = (r.lookup? name).toList ++ (((r.replace name context).displaced rest).filterMap id ++
            ((r.replace name context).after rest).contexts) := by rw [hfirst, List.append_assoc]; rfl
      _ ~ (r.lookup? name).toList ++ ((r.replace name context).contexts ++ rest.map (·.2)) :=
            (ih (r.replace name context)).append_left _
      _ = ((r.lookup? name).toList ++ (r.replace name context).contexts) ++ rest.map (·.2) :=
            (List.append_assoc ..).symm
      _ ~ (context :: r.contexts) ++ rest.map (·.2) := (perm_replace r name context).append_right _
      _ ~ r.contexts ++ context :: rest.map (·.2) := List.perm_middle.symm

/-- Under each name, every context gives back the one before it, and the first one what was active at the start. -/
theorem displaced_under (r : Registry) (published : List (String × ContextId)) (name : String) :
    ((published.zip (r.displaced published)).filter (·.1.1 = name)).map (·.2) =
      (r.lookup? name :: (published.filter (·.1 = name)).map fun entry => some entry.2).dropLast := by
  induction published generalizing r with
  | nil => rfl
  | cons entry rest ih =>
    obtain ⟨other, context⟩ := entry
    have hrest := ih (r.replace other context)
    rw [lookup?_replace] at hrest
    rw [displaced, List.zip_cons_cons]
    by_cases hname : other = name
    · subst hname
      rw [if_pos rfl] at hrest
      rw [List.filter_cons_of_pos (by simp), List.filter_cons_of_pos (by simp), List.map_cons, hrest]
      rfl
    · rw [if_neg (Ne.symm hname)] at hrest
      rw [List.filter_cons_of_neg (by simpa using hname), List.filter_cons_of_neg (by simpa using hname), hrest]

/-- As often as a name had no context before, there is one more context in the end. -/
theorem count_displaced (published : List (String × ContextId)) :
    (({} : Registry).displaced published).count none = (({} : Registry).after published).size := by
  have hsplit (results : List (Option ContextId)) :
      results.length = (results.filterMap id).length + results.count none := by
    rw [List.length_filterMap_eq_countP, List.length_eq_countP_add_countP Option.isSome]
    congr 1
    refine List.countP_congr fun result _ => ?_
    cases result <;> simp
  have hresults := hsplit (({} : Registry).displaced published)
  have hkept := (displaced_perm {} published).length_eq
  rw [length_displaced] at hresults
  simp only [List.length_append, List.length_map, contexts, List.length_nil] at hkept
  rw [size]
  omega

theorem entries_after (r : Registry) (published : List (String × ContextId)) :
    (r.after published).entries =
      published.foldl (fun entries entry => setEntry entry.1 entry.2 entries) r.entries := by
  induction published generalizing r with
  | nil => rfl
  | cons entry rest ih =>
    rw [List.foldl_cons, ← entries_replace]
    exact ih (r.replace entry.1 entry.2)

/-- There is one slot for each name that was published. -/
theorem size_after (published : List (String × ContextId)) :
    (({} : Registry).after published).size = (published.map (·.1)).eraseDups.length := by
  have hrecords := Records.nil.foldl published
  rw [List.nil_append] at hrecords
  rw [size, entries_after, ← hrecords.keys, List.length_map]

end Registry

/-! ## Publications in a session -/

namespace Session

variable {s : Session}

/-- The slot of the registry that a context is published in. -/
def slot (p : ContextId × Context) : String × ContextId := (p.2.canonical, p.1)

/-- Publications give back what the registry says, and change it alone. -/
theorem mapM_replace {published : List (ContextId × Context)}
    (hpublished : ∀ p ∈ published, s.contexts[p.1]? = some p.2)
    (hlinked : ∀ name id, s.registry.lookup? name = some id → id < s.contexts.length) :
    ∃ log, (published.map (·.1)).mapM Action.replace s = .ok (s.registry.displaced (published.map slot))
      { s with registry := s.registry.after (published.map slot), log } := by
  induction published generalizing s with
  | nil => exact ⟨s.log, rfl⟩
  | cons p rest ih =>
    rw [List.forall_mem_cons] at hpublished
    obtain ⟨log, hfirst⟩ := Emission.replace_apply hpublished.1 (hlinked p.2.canonical)
    obtain ⟨log', hrest⟩ := ih
      (s := { s with registry := s.registry.replace p.2.canonical p.1, log }) hpublished.2 fun name id hid => by
        rw [Registry.lookup?_replace] at hid
        split at hid
        · obtain rfl := Option.some.inj hid
          exact (List.getElem?_eq_some_iff.1 hpublished.1).1
        · exact hlinked name id hid
    refine ⟨log', ?_⟩
    rw [List.map_cons, List.mapM_cons, Action.bind_ok hfirst, Action.bind_ok hrest]
    rfl

/-- **No published context is lost, and none is displaced twice**: contexts that are published, starting from an empty
registry, are given back or active in the end. Under each canonical name every context gives back the one before it,
and the first one none; so none is given back as often as there are names. -/
theorem publications_conserve (hempty : s.registry = {}) {published : List (ContextId × Context)}
    (hpublished : ∀ p ∈ published, s.contexts[p.1]? = some p.2) :
    ∃ results t, (published.map (·.1)).mapM Action.replace s = .ok results t ∧
      (results.filterMap id ++ t.registry.contexts).Perm (published.map (·.1)) ∧
      ((published.map (·.1)).Nodup → (results.filterMap id ++ t.registry.contexts).Nodup) ∧
      (∀ name, ((published.zip results).filter (·.1.2.canonical = name)).map (·.2) =
        (none :: (published.filter (·.2.canonical = name)).map fun p => some p.1).dropLast) ∧
      results.count none = t.registry.size ∧
      t.registry.size = (published.map (·.2.canonical)).eraseDups.length := by
  obtain ⟨log, hrun⟩ := mapM_replace hpublished (by rw [hempty]; exact nofun)
  rw [hempty] at hrun
  have hperm := Registry.displaced_perm {} (published.map slot)
  rw [List.map_map] at hperm
  refine ⟨_, _, hrun, hperm, hperm.nodup_iff.2, fun name => ?_, ?_, ?_⟩
  · have hunder := Registry.displaced_under {} (published.map slot) name
    simp only [List.zip_map_left, List.filter_map, List.map_map, Function.comp_def, Prod.map, slot] at hunder
    exact hunder
  · exact Registry.count_displaced (published.map slot)
  · have hsize := Registry.size_after (published.map slot)
    rw [List.map_map] at hsize
    exact hsize

/-- A session with four contexts that nobody has published, three of them for one unit. -/
def unpublished : Session := { contexts := ["p.A_ts1", "p.B", "p.A_ts2", "p.A"].map Context.fresh }

/-- The contexts with their numbers. -/
def fourContexts : List (ContextId × Context) :=
  [(0, .fresh "p.A_ts1"), (1, .fresh "p.B"), (2, .fresh "p.A_ts2"), (3, .fresh "p.A")]

/-- The unit's contexts take one another's places. -/
theorem fourContexts_conserve :
    (unpublished.registry = {} ∧ ∀ p ∈ fourContexts, unpublished.contexts[p.1]? = some p.2) ∧
    ∃ results t, (fourContexts.map (·.1)).mapM Action.replace unpublished = .ok results t ∧
      (results.filterMap id ++ t.registry.contexts).Perm [0, 1, 2, 3] ∧
      ((fourContexts.zip results).filter (·.1.2.canonical = "p.A")).map (·.2) = [none, some 0, some 2] ∧
      results.count none = 2 ∧ t.registry.size = 2 := by
  have hpublished : ∀ p ∈ fourContexts, unpublished.contexts[p.1]? = some p.2 := by
    simp [fourContexts, unpublished]
  obtain ⟨results, t, hrun, hperm, -, hunder, hcount, hsize⟩ :=
    publications_conserve (s := unpublished) rfl hpublished
  have hnames : (fourContexts.map (·.2.canonical)).eraseDups.length = 2 := by decide +kernel
  have hunit : (fourContexts.filter (·.2.canonical = "p.A")).map (fun p => some p.1) = [some 0, some 2, some 3] := by
    decide +kernel
  refine ⟨⟨rfl, hpublished⟩, results, t, hrun, hperm, ?_, ?_, ?_⟩
  · rw [hunder, hunit]
    rfl
  · rw [hcount, hsize, hnames]
  · rw [hsize, hnames]

end Session

end UnitFoundry
