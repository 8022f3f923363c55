import UnitFoundry.Proofs.Compiler.Recovery
import UnitFoundry.Proofs.Session.History

/-!
# Compilations with the standard backend

The standard backend does one of three things with a source: it raises, it rejects the source for an error
that it has reported, or it publishes one context under the very name it was given. A rejection leaves
nothing but the source in memory; so the attempt after it finds the units as they were. A success leaves a
context that is active under the name and holds the module handed out, and touches no other unit.

All this is so with any reader of sources in the place of the reader of scripts.

* `Invoked`, `invoked` — **the ways in which an invocation goes**;
* `idle_or_ran_of_cached_none` — where nothing is served, at most the body of what is active has run;
* `Refused` — what a rejection leaves behind;
* `refused_of_compile` — **every compilation that ends with a rejection leaves this behind**;
* `Accomplished` — what a success leaves behind;
* `accomplished_of_compile` — **every compilation that succeeds leaves the unit active**, and no other unit
  changed.
-/

namespace UnitFoundry.Compiler

open Script Text Standard

variable {read : Reader} {name source : String} {options : Options} {s t u : Session} {id : ContextId}
  {m : ModuleId} {e : FoundryError}

/-! ## Invocations -/

/-- The ways in which an invocation of the standard backend goes. -/
inductive Invoked (read : Reader) (name source : String) (options : Options) (s : Session) : Prop where
  /-- The reader has raised, or the search for an import, or the writing of the artifact. -/
  | raised {r : Raised} {t : Session}
    (h : invoke (.reading read) name source options s = .error (.raised r) t)
  /-- An error was reported. -/
  | rejected {o : Outcome} {log : List Record}
    (h : invoke (.reading read) name source options s = .ok o { starting name source options s with log })
    (ho : o.succeeded = false) (hfound : o.found.any Diagnostic.isError = true)
  /-- A context was published. -/
  | published {o : Outcome} {t : Session} {bytes : Bytes}
    (h : invoke (.reading read) name source options s = .ok o t) (ho : o.succeeded = true)
    (hpublished : o.published = [(name, s.contexts.length)])
    (hcontexts : t.contexts = s.contexts ++ [Emission.emittedContext name bytes])
    (hregistry : t.registry = s.registry.replace (UnitName.canonical name) s.contexts.length)

/-- **An invocation goes in one of these ways.** -/
theorem invoked (read : Reader) (name source : String) (options : Options) (hs : s.Sound) :
    Invoked read name source options s := by
  have hinvoke := invoke_apply (.reading read) name source options s
  have hstart : (starting name source options s).Sound := hs.congr rfl rfl rfl
  cases hread : read options.target options.optimize source with
  | error r =>
    obtain ⟨more, t, hrun, -⟩ := ends_of_raised name hread (starting name source options s)
      s.scopes.length [] _ (.refl _) hstart
    exact .raised (hinvoke.trans (Action.bind_ok hrun))
  | ok c =>
    by_cases haccepts : Accepts options (File.source name source).uri c
    · obtain ⟨verdict, all, t, hrun, hemitted⟩ := run_of_accepted name hread haccepts
        s.scopes.length [] hstart
      cases verdict with
      | error r => exact .raised (hinvoke.trans (Action.bind_ok hrun))
      | ok b =>
        obtain ⟨rfl, bytes, hcontexts, hregistry, hscopes⟩ := hemitted b rfl
        refine .published (hinvoke.trans (Action.bind_ok hrun)) rfl ?_ hcontexts hregistry
        show t.scopes[s.scopes.length]?.getD [] = _
        rw [hscopes, Emission.getElem?_remembered, if_pos rfl]
        show (((s.scopes ++ [[]])[s.scopes.length]?).map _).getD [] = _
        rw [List.getElem?_concat_length]
        rfl
    · obtain ⟨log, hrun⟩ := run_of_rejected name hread haccepts s.scopes.length []
        (starting name source options s)
      exact .rejected (hinvoke.trans (Action.bind_ok hrun)) rfl (any_isError_of_not_accepts haccepts)

/-! ## Nothing served -/

/-- Nothing is served because nothing is active under the name, or because its artifact cannot be used. -/
theorem cases_of_cached_none (hs : s.Sound) (h : cached name s = .ok none t) :
    ((∀ id, ¬ Active s name id) ∧ t = s) ∨
      ∃ id e u log, Active s name id ∧ Loader.load id s = .error (.error e) u ∧ t = { u with log } := by
  by_cases hactive : ∃ id, Active s name id
  · obtain ⟨id, hactive⟩ := hactive
    refine .inr ?_
    cases hload : Loader.load id s with
    | ok m u =>
      obtain ⟨log, hsome⟩ := cached_of_load hactive hload
      cases hsome.symm.trans h
    | error f u =>
      by_cases hf : ∃ e, f = .error e
      · obtain ⟨e, rfl⟩ := hf
        obtain ⟨log, hnone⟩ := cached_of_unusable hactive hload
        cases hnone.symm.trans h
        exact ⟨id, e, u, log, hactive, hload, rfl⟩
      · cases (cached_of_exception hactive (not_exists.1 hf) hload).symm.trans h
  · have hnone := cached_of_not_active hs (not_exists.1 hactive)
    cases hnone.symm.trans h
    exact .inl ⟨not_exists.1 hactive, rfl⟩

/-- What no load touches is as it was if nothing is served. -/
theorem untouched_of_cached_none {β : Type} {part : Session → β} (hpart : Loader.Untouched part)
    (hs : s.Sound) (h : cached name s = .ok none t) : part t = part s := by
  obtain ⟨-, rfl⟩ | ⟨id, e, u, log, -, hload, rfl⟩ := cases_of_cached_none hs h
  · rfl
  · have huntouched := hpart.load id s
    rw [hload] at huntouched
    exact (hpart.saved u u.sideStore u.disk log).trans huntouched

/-- Nothing has run, and contexts, modules and objects are what they were. -/
structure Idle (s t : Session) : Prop where
  contexts : t.contexts = s.contexts
  modules : t.modules = s.modules
  objects : t.objects = s.objects
  history : t.history = s.history

theorem Idle.trans (hst : Idle s t) (htu : Idle t u) : Idle s u where
  contexts := htu.contexts.trans hst.contexts
  modules := htu.modules.trans hst.modules
  objects := htu.objects.trans hst.objects
  history := htu.history.trans hst.history

/-- The body of a unit that is active under a name has run, and what else it has started. -/
def RanActive (name : String) (s t : Session) : Prop :=
  ∃ id m events, Active s name id ∧ t.history = s.history ++ .begun id m :: events

/-- Where nothing is served, nothing has run, or the body of what is active has. -/
theorem idle_or_ran_of_cached_none (hs : s.Sound) (h : cached name s = .ok none t) :
    Idle s t ∨ RanActive name s t := by
  obtain ⟨-, rfl⟩ | ⟨id, e, u, log, hactive, hload, rfl⟩ := cases_of_cached_none hs h
  · exact .inl ⟨rfl, rfl, rfl, rfl⟩
  · have hbegins := hs.load_begins id
    rw [hload] at hbegins
    obtain ⟨sideStore, disk, saved, hu⟩ | ⟨m, events, hhistory⟩ := hbegins
    · obtain rfl : u = { s with sideStore, disk, log := saved } := hu
      exact .inl ⟨rfl, rfl, rfl, rfl⟩
    · exact .inr ⟨id, m, events, hactive, hhistory⟩

/-- A context stays active while the registry and the names of contexts stay the same. -/
theorem Active.congr (h : Active s name id) (hregistry : t.registry = s.registry)
    (harchive : t.archive = s.archive) : Active t name id := by
  obtain ⟨hid, c, hc, hq⟩ := h
  refine ⟨hregistry ▸ hid, ?_⟩
  have hentry : t.archive[id]? = some (c.qualified, c.artifact) := by
    rw [harchive, Session.archive, List.getElem?_map, hc]
    rfl
  rw [Session.archive, List.getElem?_map] at hentry
  obtain ⟨c', hc', heq⟩ := Option.map_eq_some_iff.1 hentry
  exact ⟨c', hc', (Prod.mk.inj heq).1.trans hq⟩

/-! ## Rejections -/

/-- What a rejection leaves behind: the units as they were, and the source in memory. Nothing has run but
what is active under the name, if this was tried. -/
structure Refused (name source : String) (s t : Session) : Prop where
  registry : t.registry = s.registry
  archive : t.archive = s.archive
  overlay : t.overlay = setEntry
    (UnitName.overlayUri Location.sourcePath.label (UnitName.package name)
      (UnitName.simple name ++ UnitName.sourceExtension)) (File.source name source) s.overlay
  runs : Idle s t ∨ RanActive name s t

/-- A second rejection leaves no more behind than the first one. -/
theorem Refused.trans (hst : Refused name source s t) (htu : Refused name source t u) :
    Refused name source s u where
  registry := htu.registry.trans hst.registry
  archive := htu.archive.trans hst.archive
  overlay := by
    rw [htu.overlay, hst.overlay, setEntry_setEntry]
  runs := by
    rcases hst.runs with hidle | ⟨id, m, events, hactive, hhistory⟩
    · rcases htu.runs with hidle' | ⟨id, m, events, hactive, hhistory⟩
      · exact .inl (hidle.trans hidle')
      · have hbefore := hactive.congr hst.registry.symm hst.archive.symm
        exact .inr ⟨id, m, events, hbefore, hidle.history ▸ hhistory⟩
    · rcases htu.runs with hidle | ⟨other, n, more, -, hmore⟩
      · exact .inr ⟨id, m, events, hactive, hidle.history.trans hhistory⟩
      · refine .inr ⟨id, m, events ++ .begun other n :: more, hactive, ?_⟩
        rw [hmore, hhistory, List.append_assoc]
        rfl

/-- An attempt that ends with a rejection. -/
theorem refused_of_compileOnce (hs : s.Sound) (he : isRejection e = true)
    (h : compileOnce (.reading read) name source options s = .error (.error e) t) :
    (∃ found, e = .rejected name found ∧ found.any Diagnostic.isError = true) ∧
      Refused name source s t := by
  rcases Action.bind_eq_error.1 h with hcached | ⟨found, u, hcached, hrest⟩
  · exact absurd rfl (ne_error_of_cached hs hcached e)
  cases found with
  | some m => cases hrest
  | none =>
    have hu : u.Sound := ((Session.soundCompiling.keeps_cached name).ok hs hcached).1
    have hkeeps := Session.soundCompiling.keeps_invoke (.reading read) name source options
    rcases invoked read name source options hu with ⟨hinvoke⟩ | ⟨hinvoke, ho, hfound⟩ | ⟨hinvoke, ho⟩
    · cases (Action.bind_error hinvoke).symm.trans hrest
    · have hsettle := (Action.bind_ok hinvoke).symm.trans hrest
      rw [settle, if_neg (by rw [ho]; exact Bool.false_ne_true),
        Action.bind_ok (Action.logged_apply ..)] at hsettle
      cases hsettle
      have hregistry : u.registry = s.registry :=
        untouched_of_cached_none Loader.untouched_registry hs hcached
      have harchive : u.archive = s.archive :=
        untouched_of_cached_none Loader.untouched_archive hs hcached
      have hoverlay : u.overlay = s.overlay :=
        untouched_of_cached_none Loader.untouched_overlay hs hcached
      refine ⟨⟨_, rfl, hfound⟩, hregistry, harchive, ?_, ?_⟩
      · show setEntry _ _ u.overlay = _
        rw [hoverlay]
      · rcases idle_or_ran_of_cached_none hs hcached with hidle | hran
        · exact .inl (hidle.trans ⟨rfl, rfl, rfl, rfl⟩)
        · exact .inr hran
    · have hsettle := (Action.bind_ok hinvoke).symm.trans hrest
      have hnone := isRejection_of_settle (hkeeps.ok hu hinvoke).1 ho hsettle
      exact absurd (he.symm.trans hnone) (by decide)

/-- What a first attempt leaves behind if it is followed by a second one. -/
theorem refused_of_secondStart? (hs : s.Sound)
    (h : secondStart? (.reading read) name source s = some t) :
    t.Sound ∧ Refused name source s t := by
  have ht : t.Sound := inv_of_secondStart Session.soundCompiling hs h
  obtain ⟨e, u, honce, hretried, rfl⟩ := secondStart?_eq_some h
  have he : isRejection e = true := by
    unfold isRetried at hretried
    simp only [Bool.and_eq_true] at hretried
    exact hretried.1.1
  obtain ⟨hregistry, harchive, hoverlay, hruns⟩ := (refused_of_compileOnce hs he honce).2
  refine ⟨ht, hregistry, harchive, hoverlay, ?_⟩
  rcases hruns with hidle | hran
  · exact .inl (hidle.trans ⟨rfl, rfl, rfl, rfl⟩)
  · exact .inr hran

/-- **What a compilation that ends with a rejection leaves behind.** -/
theorem refused_of_compile (hs : s.Sound) (he : isRejection e = true)
    (h : compile (.reading read) name source s = .error (.error e) t) :
    (∃ found, e = .rejected name found ∧ found.any Diagnostic.isError = true) ∧
      Refused name source s t := by
  cases hstart : secondStart? (.reading read) name source s with
  | none =>
    rw [compile_of_secondStart?_none hstart] at h
    exact refused_of_compileOnce hs he h
  | some u =>
    obtain ⟨hu, hfirst⟩ := refused_of_secondStart? hs hstart
    rw [compile_of_secondStart?_some hstart] at h
    obtain ⟨hfound, hsecond⟩ := refused_of_compileOnce hu he h
    exact ⟨hfound, hfirst.trans hsecond⟩

/-! ## Successes -/

/-- What a success leaves behind: a context that is active under the name and holds the module, and the
slots of the other units as they were. -/
structure Accomplished (name : String) (m : ModuleId) (s t : Session) : Prop where
  active : ∃ id, Active t name id ∧ t.Holds id m
  others : ∀ canonical, canonical ≠ UnitName.canonical name →
    t.registry.lookup? canonical = s.registry.lookup? canonical

/-- What a load of the context that is active under the name leaves behind. -/
theorem accomplished_of_load (hs : s.Sound) (hactive : Active s name id)
    (hload : Loader.load id s = .ok m t) : Accomplished name m s t := by
  have hregistry := Loader.untouched_registry.load id s
  have harchive := Loader.untouched_archive.load id s
  rw [hload] at hregistry harchive
  refine ⟨⟨id, hactive.congr hregistry harchive, hs.holds_of_load hload⟩, fun canonical _ => ?_⟩
  exact congrArg (·.lookup? canonical) hregistry

/-- An attempt that succeeds. -/
theorem accomplished_of_compileOnce (hs : s.Sound)
    (h : compileOnce (.reading read) name source options s = .ok m t) : Accomplished name m s t := by
  obtain ⟨found, u, hcached, hrest⟩ := Action.bind_eq_ok.1 h
  cases found with
  | some n =>
    cases hrest
    obtain ⟨id, hactive⟩ := active_of_cached hs fun v hnone => by cases hnone.symm.trans hcached
    obtain ⟨v, log, hload, rfl⟩ := load_of_cached hs hactive.1 hcached
    obtain ⟨hactive, hothers⟩ := accomplished_of_load hs hactive hload
    exact ⟨hactive, hothers⟩
  | none =>
    have hu : u.Sound := ((Session.soundCompiling.keeps_cached name).ok hs hcached).1
    have hregistry : u.registry = s.registry :=
      untouched_of_cached_none Loader.untouched_registry hs hcached
    have hkeeps := Session.soundCompiling.keeps_invoke (.reading read) name source options
    rcases invoked read name source options hu with ⟨hinvoke⟩ | ⟨hinvoke, ho⟩ |
      @⟨o, v, bytes, hinvoke, ho, hpublished, hcontexts, hslots⟩
    · cases (Action.bind_error hinvoke).symm.trans hrest
    · have hsettle := (Action.bind_ok hinvoke).symm.trans hrest
      rw [settle, if_neg (by rw [ho]; exact Bool.false_ne_true)] at hsettle
      cases hsettle
    · have hsettle := (Action.bind_ok hinvoke).symm.trans hrest
      have hv : v.Sound := (hkeeps.ok hu hinvoke).1
      have hid : v.registry.lookup? (UnitName.canonical name) = some u.contexts.length := by
        rw [hslots, Registry.lookup?_replace, if_pos rfl]
      obtain ⟨log, hload⟩ := loadPublished_of_active hv o.published hid
      rw [settle, if_pos ho, hload, hpublished] at hsettle
      have hchosen : (lookupEntry name [(name, u.contexts.length)]).getD u.contexts.length =
          u.contexts.length := by simp [lookupEntry]
      rw [hchosen] at hsettle
      have hnoted : Session.Sound { v with log } := hv.congr rfl rfl rfl
      have hlogged : Active { v with log } name u.contexts.length := by
        refine ⟨hid, Emission.emittedContext name bytes, ?_, rfl⟩
        show v.contexts[u.contexts.length]? = _
        rw [hcontexts]
        exact List.getElem?_concat_length
      obtain ⟨hactive, hothers⟩ := accomplished_of_load hnoted hlogged hsettle
      refine ⟨hactive, fun canonical hne => (hothers canonical hne).trans ?_⟩
      show v.registry.lookup? canonical = _
      rw [hslots, Registry.lookup?_replace, if_neg hne, hregistry]

/-- **What a compilation that succeeds leaves behind.** -/
theorem accomplished_of_compile (hs : s.Sound)
    (h : compile (.reading read) name source s = .ok m t) : Accomplished name m s t := by
  cases hstart : secondStart? (.reading read) name source s with
  | none =>
    rw [compile_of_secondStart?_none hstart] at h
    exact accomplished_of_compileOnce hs h
  | some u =>
    obtain ⟨hu, hfirst⟩ := refused_of_secondStart? hs hstart
    rw [compile_of_secondStart?_some hstart] at h
    obtain ⟨hactive, hothers⟩ := accomplished_of_compileOnce hu h
    refine ⟨hactive, fun canonical hne => (hothers canonical hne).trans ?_⟩
    rw [hfirst.registry]

end UnitFoundry.Compiler
