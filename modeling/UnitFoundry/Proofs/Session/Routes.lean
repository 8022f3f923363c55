import UnitFoundry.Compiler
import UnitFoundry.Proofs.Session.Keys
import UnitFoundry.Proofs.UnitPath

/-!
# The ways to a unit

A unit is looked for in three ways: in the registry by its name, by the path of its artifact, and by what the
body of another unit imports. They lead to the same context, whichever generation the name belongs to.

A unit that looks for itself is another matter. Its imports lead to its own context, also when a newer
generation has taken its place; its resources are looked for in the registry like any others.

* `unitFrom?`, `resolve_apply` — the context that a name leads to from a context;
* `LeadsTo` — all ways from a name lead to a context, or all of them to none;
* `Reachable.leadsTo` — **the ways lead to what is active under the canonical name**;
* `Reachable.resource_eq_iff` — **when a resource is the artifact of what an import leads to**.
-/

namespace UnitFoundry

open Script Text

namespace Session

variable {s : Session} {id from_ : ContextId} {c : Context} {name : String}

/-! ## From a context -/

/-- The context that a name leads to from a context: itself under its own names, else what is found in the
registry. -/
def unitFrom? (s : Session) (from_ : ContextId) (name : String) : Option ContextId :=
  s.contexts[from_]?.bind fun c =>
    if name = c.qualified || name = c.canonical then some from_ else s.registry.find? name

theorem unitFrom?_own (hc : s.contexts[from_]? = some c) (hname : name = c.qualified ∨ name = c.canonical) :
    s.unitFrom? from_ name = some from_ := by
  simp [unitFrom?, hc, hname]

theorem unitFrom?_other (hc : s.contexts[from_]? = some c)
    (hname : ¬ (name = c.qualified ∨ name = c.canonical)) :
    s.unitFrom? from_ name = s.registry.find? name := by
  simp [unitFrom?, hc, hname]

/-- Imports are resolved so. -/
theorem resolve_apply (hc : s.contexts[from_]? = some c) (name : String) :
    Import.resolve from_ name s = .ok (s.unitFrom? from_ name) s := by
  rw [Import.resolve, Action.bind_ok (Action.context_some hc)]
  by_cases hname : name = c.qualified ∨ name = c.canonical
  · rw [unitFrom?_own hc hname, if_pos (by simpa using hname)]
    rfl
  · rw [unitFrom?_other hc hname, if_neg (by simpa using hname)]
    rfl

/-! ## The ways -/

/-- All ways from a name lead to a context, or all of them to none. Then each goes on in its own manner: with
the context, or with what it falls back on. The imports are those of units that do not have this name
themselves. -/
structure LeadsTo (s : Session) (name : String) (target : Option ContextId) : Prop where
  find : s.registry.find? name = target
  loadActive : Compiler.loadActive name s =
    target.elim (throw (.error (.unknownUnit name))) Loader.load s
  resource : Overlay.resource (UnitName.toPath name UnitName.artifactExtension) s =
    target.elim (Overlay.resourceBytes (UnitName.toPath name UnitName.artifactExtension))
      Overlay.artifactBytes s
  /-- An import by a statement. -/
  statement : ∀ (from_ : ContextId) (c : Context), s.contexts[from_]? = some c →
    ¬ (name = c.qualified ∨ name = c.canonical) → ∀ engine names wanted,
    Import.importModule engine from_ names name wanted 0 s =
      target.elim (Import.importOther engine.load from_ name wanted)
        (fun id => Import.importUnit engine.load id name wanted) s
  /-- An import by a call. -/
  call : ∀ (from_ : ContextId) (c : Context), s.contexts[from_]? = some c →
    ¬ (name = c.qualified ∨ name = c.canonical) → ∀ engine copy listed otherwise,
    importNamed engine from_ (.text name copy) listed otherwise s =
      target.elim (importNamedOther engine from_ (.text name copy) listed otherwise)
        (fun id => importNamedUnit engine id (.text name copy) listed) s
  loadUnit : ∀ (from_ : ContextId) (c : Context), s.contexts[from_]? = some c →
    ¬ (name = c.qualified ∨ name = c.canonical) → ∀ load,
    Import.loadUnit load from_ name s =
      target.elim (Import.loadOther name) (fun id => Value.module <$> load id) s

/-- A path leads to what its name is found to be. -/
theorem resource_apply {path : String} (hpath : UnitName.ofArtifactPath? path = some name) :
    Overlay.resource path s =
      (s.registry.find? name).elim (Overlay.resourceBytes path) Overlay.artifactBytes s := by
  rw [Overlay.resource, Action.bind_ok (Action.get_apply s), hpath, Option.bind_some]
  cases s.registry.find? name <;> rfl

/-- The ways lead to what is found, if the name can be read off the path of its artifact. -/
theorem leadsTo_of_find? {target : Option ContextId} (hfind : s.registry.find? name = target)
    (hslash : '/' ∉ name.toList) (hdot : name.toList.head? ≠ some '.') : LeadsTo s name target := by
  subst hfind
  constructor
  case find => rfl
  case loadActive =>
    rw [Compiler.loadActive, Action.bind_ok (Action.find_apply name s)]
    cases s.registry.find? name <;> rfl
  case resource => exact resource_apply (UnitName.ofArtifactPath?_toPath_self hslash hdot)
  case statement =>
    intro from_ c hc hname engine names wanted
    rw [Import.importModule, if_neg (by decide), Action.bind_ok (resolve_apply hc name),
      unitFrom?_other hc hname]
    cases s.registry.find? name <;> rfl
  case call =>
    intro from_ c hc hname engine copy listed otherwise
    have hresolve : resolveValue engine from_ (.text name copy) s = .ok (s.registry.find? name) s := by
      rw [resolveValue, Action.bind_ok (Action.context_some hc), ← unitFrom?_other hc hname]
      exact resolve_apply hc name
    rw [importNamed, Action.bind_ok hresolve]
    cases s.registry.find? name <;> rfl
  case loadUnit =>
    intro from_ c hc hname load
    rw [Import.loadUnit, Action.bind_ok (resolve_apply hc name), unitFrom?_other hc hname]
    cases s.registry.find? name <;> rfl

/-- **All ways lead to what is active under the canonical name**, which is the same for all generations. -/
theorem Reachable.leadsTo (hs : s.Reachable) (hname : '\n' ∉ name.toList) (hslash : '/' ∉ name.toList)
    (hdot : name.toList.head? ≠ some '.') :
    LeadsTo s name (s.registry.lookup? (UnitName.canonical name)) :=
  leadsTo_of_find? (hs.keyed.find?_eq hname) hslash hdot

/-- A session in which two generations of a unit are published, and a unit that imports it. -/
def succession : Session :=
  holdingUnits [("p.A_ts1", "x = 1\n"), ("p.A_ts2", "x = 2\n"), ("p.B_ts1", "import p.A_ts1\n")]

/-- A generation that is to come leads to the active one. -/
theorem succession_leadsTo :
    succession.Reachable ∧ '\n' ∉ "p.A_ts3".toList ∧ '/' ∉ "p.A_ts3".toList ∧
      "p.A_ts3".toList.head? ≠ some '.' ∧ LeadsTo succession "p.A_ts3" (some 1) := by
  have hreachable : succession.Reachable := holdingUnits_reachable _
  have hactive : succession.registry.lookup? (UnitName.canonical "p.A_ts3") = some 1 := by decide +kernel
  refine ⟨hreachable, by decide, by decide, by decide, ?_⟩
  rw [← hactive]
  exact hreachable.leadsTo (by decide) (by decide) (by decide)

/-! ## A unit's own resources -/

/-- Under a name of its own that consists of one line, a context finds what is active under its canonical
name. -/
theorem Keyed.find?_own (h : s.Keyed) (hbreak : '\n' ∉ name.toList)
    (hname : name = c.qualified ∨ name = c.canonical) :
    s.registry.find? name = s.registry.lookup? c.canonical := by
  rw [h.find?_eq hbreak]
  rcases hname with rfl | rfl
  · rfl
  · rw [Context.canonical, UnitName.canonical_of_canonical hbreak]

/-- **When a resource is the artifact of the context that an import leads to.** It always is under a name that
is none of the importing unit's own. Under a name of its own an import leads to the unit itself; the resource
is its artifact if the registry leads to it as well, that is, unless another generation is active or none.
Otherwise what is active is served, or what is on the resource path, and this has to have the same bytes. -/
theorem Reachable.resource_eq_iff (hs : s.Reachable) (hc : s.contexts[from_]? = some c)
    (hslash : '/' ∉ name.toList) (hdot : name.toList.head? ≠ some '.')
    (hid : Import.resolve from_ name s = .ok (some id) s) :
    (Overlay.resource (UnitName.toPath name UnitName.artifactExtension) s = Overlay.artifactBytes id s ↔
      ¬ (name = c.qualified ∨ name = c.canonical) ∨ s.registry.find? name = some id ∨
      (∃ other ≠ id, s.registry.find? name = some other ∧
        Overlay.artifactBytes other s = Overlay.artifactBytes id s) ∨
      s.registry.find? name = none ∧
        Overlay.resourceBytes (UnitName.toPath name UnitName.artifactExtension) s =
          Overlay.artifactBytes id s) ∧
    ('\n' ∉ name.toList → name = c.qualified ∨ name = c.canonical →
      s.registry.find? name = s.registry.lookup? c.canonical) := by
  refine ⟨?_, fun hbreak hname => hs.keyed.find?_own hbreak hname⟩
  have hresource := resource_apply (s := s) (UnitName.ofArtifactPath?_toPath_self hslash hdot)
  have hunit : s.unitFrom? from_ name = some id :=
    (EStateM.Result.ok.inj ((resolve_apply hc name).symm.trans hid)).1
  rw [hresource]
  by_cases hname : name = c.qualified ∨ name = c.canonical
  · -- what is found in the registry decides
    cases hfind : s.registry.find? name with
    | none => simp [hname]
    | some other =>
      by_cases hother : other = id
      · simp [hother]
      · simp [hname, hother]
  · -- imports and resources are looked for in the same place
    rw [← unitFrom?_other hc hname, hunit]
    simp [hname]

/-- The first generation finds itself under its canonical name. The artifact there is not its own. -/
theorem succession_resource_ne :
    ∃ c, succession.Reachable ∧ succession.contexts[0]? = some c ∧ '/' ∉ "p.A".toList ∧
      "p.A".toList.head? ≠ some '.' ∧ Import.resolve 0 "p.A" succession = .ok (some 0) succession ∧
      Overlay.resource (UnitName.toPath "p.A" UnitName.artifactExtension) succession ≠
        Overlay.artifactBytes 0 succession := by
  have hreachable : succession.Reachable := holdingUnits_reachable _
  have hcanonical : succession.contexts[0]?.map Context.canonical = some "p.A" := by decide +kernel
  obtain ⟨c, hc, hname⟩ := Option.map_eq_some_iff.1 hcanonical
  have hresolve : Import.resolve 0 "p.A" succession = .ok (some 0) succession := by
    rw [resolve_apply hc, unitFrom?_own hc (.inr hname.symm)]
  refine ⟨c, hreachable, hc, by decide, by decide, hresolve, ?_⟩
  intro hresource
  have hfind : succession.registry.find? "p.A" = some 1 := by decide +kernel
  have hdiffer : (Overlay.artifactBytes 1).run' succession ≠ (Overlay.artifactBytes 0).run' succession := by
    decide +kernel
  rcases (hreachable.resource_eq_iff hc (by decide) (by decide) hresolve).1.1 hresource with
    hother | hself | ⟨other, -, hother, hsame⟩ | ⟨hnone, -⟩
  · exact hother (.inr hname.symm)
  · cases hfind.symm.trans hself
  · cases hfind.symm.trans hother
    exact hdiffer (Action.run_congr hsame)
  · cases hfind.symm.trans hnone

/-- Under its versioned name it finds itself as well, and the artifact of the generation after it. -/
theorem succession_resource :
    succession.Reachable ∧
      (succession.contexts[0]?.map fun c => (c.qualified, c.canonical)) = some ("p.A_ts1", "p.A") ∧
      (Import.resolve 0 "p.A_ts1").run' succession = some (some 0) ∧
      (Overlay.artifactBytes 0).run' succession = some (Scenario.artifactOf "p.A_ts1" "x = 1\n") ∧
      (Overlay.resource (UnitName.toPath "p.A_ts1" UnitName.artifactExtension)).run' succession =
        some (Scenario.artifactOf "p.A_ts2" "x = 2\n") ∧
      Scenario.artifactOf "p.A_ts2" "x = 2\n" ≠ Scenario.artifactOf "p.A_ts1" "x = 1\n" :=
  ⟨holdingUnits_reachable _, by decide +kernel, by decide +kernel, by decide +kernel, by decide +kernel,
    by decide +kernel⟩

end Session

end UnitFoundry
