import UnitFoundry.Proofs.Session.Isolation
import UnitFoundry.Proofs.Session.Keys

/-!
# Copies of loaded artifacts

A copy of an artifact goes to the side store each time it is read to be loaded, under the canonical name of its
unit, and a later copy takes the place of an earlier one. The generation that is active has no say in it: what a
store ends up with for a name is what was read last. If that can be decoded, a body was run for it, so
that the history tells which context it belongs to.

* `Session.copies`, `Session.copy?` — what a store in memory has taken in;
* `Session.bodies` — the contexts whose bodies were run, in order;
* `Session.Copied` — the copies that can be decoded are those of the bodies that were run;
* `Copied.copy?_eq` — the last copy of a name is that of the last body;
* `copies_iff` — **after any operations, when the copy of a name is that of the active context**;
* `regression_copy` — an older generation that is loaded later.
-/

namespace UnitFoundry

open Script Text

/-! ## Artifacts that can be decoded -/

/-- Whether there is code in an artifact. -/
def Artifact.isReadable (data : Bytes) : Bool := (decode "" data).isOk

/-- Whether there is code in it does not depend on the name that errors would speak of. -/
theorem Artifact.isReadable_iff (name : String) {data : Bytes} :
    isReadable data = true ↔ ∃ code, decode name data = .ok code := by
  unfold isReadable decode
  split
  · simp [Except.isOk, Except.toBool]
  split
  · simp [Except.isOk, Except.toBool]
  split
  all_goals simp [Except.isOk, Except.toBool]

/-- The context whose body has begun. -/
def Event.begun? : Event → Option ContextId
  | begun id _ => some id
  | ended _ _ _ => none

namespace Session

/-! ## Copies -/

/-- What a store in memory has taken in, oldest first. -/
def copies (s : Session) : List (String × Bytes) :=
  match s.sideStore with
  | .memory _ _ saved => saved
  | _ => []

/-- The copy under a name is the last one that was saved under it. -/
def copy? (s : Session) (name : String) : Option Bytes := lastSet? s.copies name

/-- The contexts whose bodies were run, in the order in which they have begun. -/
def bodies (s : Session) : List ContextId := s.history.filterMap Event.begun?

/-- The context of a canonical name whose body has begun last. -/
def lastBody? (s : Session) (canonical : String) : Option ContextId :=
  (s.bodies.filter fun id => s.contexts[id]?.any (·.canonical = canonical)).getLast?

/-- A copy is that of a context: it has its canonical name and the bytes of its artifact. -/
def IsCopyOf (s : Session) (copy : String × Bytes) (id : ContextId) : Prop :=
  ∃ c, s.contexts[id]? = some c ∧ c.canonical = copy.1 ∧ c.artifact.bytes = .ok copy.2

variable {s t : Session} {id : ContextId} {c : Context} {m : ModuleId} {copy : String × Bytes}
  {name : String} {data : Bytes}

namespace IsCopyOf

theorem unique {data' : Bytes} (h : s.IsCopyOf (name, data) id) (h' : s.IsCopyOf (name, data') id) :
    data = data' := by
  obtain ⟨c, hc, -, hdata⟩ := h
  obtain ⟨c', hc', -, hdata'⟩ := h'
  obtain rfl := Option.some.inj (hc.symm.trans hc')
  exact Except.ok.inj (hdata.symm.trans hdata')

theorem of_contexts (h : s.IsCopyOf copy id) (hc : t.contexts = s.contexts) : t.IsCopyOf copy id := by
  unfold IsCopyOf
  rw [hc]
  exact h

theorem concat (h : s.IsCopyOf copy id) (made : Context) :
    IsCopyOf { s with contexts := s.contexts ++ [made] } copy id := by
  obtain ⟨c, hc, hcopy⟩ := h
  exact ⟨c, (List.getElem?_append_left (List.getElem?_eq_some_iff.1 hc).1).trans hc, hcopy⟩

/-- Contexts keep their names and their artifacts. -/
theorem modify {change : Context → Context} (h : s.IsCopyOf copy id) (other : ContextId)
    (hchange : ∀ c, (change c).qualified = c.qualified ∧ (change c).artifact = c.artifact) :
    IsCopyOf { s with contexts := s.contexts.modify other change } copy id := by
  obtain ⟨c, hc, hname, hdata⟩ := h
  by_cases heq : other = id
  · subst heq
    refine ⟨change c, by simp [hc], ?_, ?_⟩
    · rw [Context.canonical, (hchange c).1]
      exact hname
    · rw [(hchange c).2]
      exact hdata
  · exact ⟨c, (List.getElem?_modify_ne _ _ heq).trans hc, hname, hdata⟩

/-- An artifact that is finished when a writer is closed has no copies yet. -/
theorem sealed {k : WriterId} {w : OpenWriter} (h : s.IsCopyOf copy id) (hguarded : s.Guarded)
    (hw : s.writers[k]? = some w) (hopen : w.writer.closed = false) :
    IsCopyOf (Emission.sealed k w s) copy id := by
  obtain ⟨c, hc, hname, hdata⟩ := h
  have hne : w.context ≠ id := by
    rintro rfl
    have hfrozen := File.isFrozen_of_bytes hdata
    rw [hguarded.unfinished k w c hw hopen hc] at hfrozen
    cases hfrozen
  exact ⟨c, (List.getElem?_modify_ne _ _ hne).trans hc, hname, hdata⟩

end IsCopyOf

/-! ## Copies and bodies go together -/

/-- The side store is one in memory that refuses nothing. Every copy in it is that of a context, and those that
can be decoded are the copies of the contexts whose bodies were run, in the same order. -/
structure Copied (s : Session) : Prop where
  guarded : s.Guarded
  saves : ∃ n, s.sideStore = .memory (fun _ => none) n s.copies
  known : ∀ copy ∈ s.copies, ∃ id, s.IsCopyOf copy id
  ran : List.Forall₂ s.IsCopyOf (s.copies.filter fun copy => Artifact.isReadable copy.2) s.bodies

namespace Copied

/-- What has copies keeps its name and its artifact. -/
theorem congr (h : s.Copied) (hguarded : t.Guarded) (hside : t.sideStore = s.sideStore)
    (hhistory : t.history = s.history) (hkept : ∀ copy id, s.IsCopyOf copy id → t.IsCopyOf copy id) :
    t.Copied := by
  have hcopies : t.copies = s.copies := by rw [copies, copies, hside]
  have hbodies : t.bodies = s.bodies := by rw [bodies, bodies, hhistory]
  refine ⟨hguarded, ?_, ?_, ?_⟩
  · rw [hside, hcopies]
    exact h.saves
  · rw [hcopies]
    intro copy hcopy
    obtain ⟨id, hid⟩ := h.known copy hcopy
    exact ⟨id, hkept copy id hid⟩
  · rw [hcopies, hbodies]
    exact h.ran.imp fun copy id => hkept copy id

/-- What changes nothing of contexts, writers and copies. -/
theorem same (h : s.Copied) (hc : t.contexts = s.contexts) (hw : t.writers = s.writers)
    (hm : s.modules.length ≤ t.modules.length) (hside : t.sideStore = s.sideStore)
    (hhistory : t.history = s.history) : t.Copied :=
  h.congr (h.guarded.congr hc hw hm) hside hhistory fun _ _ hcopy => hcopy.of_contexts hc

/-! ### What is saved -/

/-- A session in which a copy has been saved. -/
def saving (s : Session) (n : Nat) (copy : String × Bytes) : Session :=
  { s with sideStore := .memory (fun _ => none) n (s.copies ++ [copy]) }

/-- A copy is saved, and nothing else is different. -/
theorem saveCopy_apply (h : s.Copied) (name : String) (data : Bytes) :
    ∃ n, Action.saveCopy name data s = .ok ⟨⟩ (saving s n (name, data)) := by
  obtain ⟨n, hside⟩ := h.saves
  refine ⟨n + 1, ?_⟩
  rw [Action.saveCopy, Action.bind_ok (Action.get_apply s), hside]
  rfl

/-- A copy that cannot be decoded. -/
theorem unreadable (h : s.Copied) (n : Nat) (hcopy : s.IsCopyOf copy id)
    (hreadable : Artifact.isReadable copy.2 = false) : (saving s n copy).Copied where
  guarded := h.guarded.congr rfl rfl (Nat.le_refl _)
  saves := ⟨n, rfl⟩
  known other hother := by
    rcases List.mem_append.1 hother with hother | hother
    · exact h.known other hother
    · obtain rfl := List.mem_singleton.1 hother
      exact ⟨id, hcopy⟩
  ran := by
    show List.Forall₂ s.IsCopyOf ((s.copies ++ [copy]).filter _) s.bodies
    rw [List.filter_append, List.filter_singleton, hreadable]
    simpa using h.ran

/-- A copy that can be decoded goes together with the run of a body. -/
theorem readable (h : s.Copied) (n : Nat) (hc : s.contexts[id]? = some c)
    (hfrozen : c.artifact.isFrozen = true) (hcopy : s.IsCopyOf copy id)
    (hreadable : Artifact.isReadable copy.2 = true) (unit : UnitModule) (made : Nat) :
    (Session.begun { saving s n copy with made, modules := s.modules ++ [unit] } id
      s.modules.length).Copied where
  guarded := by
    have hguarded : Guarded { saving s n copy with made, modules := s.modules ++ [unit] } :=
      h.guarded.congr rfl rfl (by simp)
    exact hguarded.begun hc hfrozen (by simp)
  saves := ⟨n, rfl⟩
  known other hother := by
    rcases List.mem_append.1 hother with hother | hother
    · obtain ⟨id', hid'⟩ := h.known other hother
      exact ⟨id', hid'.modify id fun _ => ⟨rfl, rfl⟩⟩
    · obtain rfl := List.mem_singleton.1 hother
      exact ⟨id, hcopy.modify id fun _ => ⟨rfl, rfl⟩⟩
  ran := by
    show List.Forall₂ _ ((s.copies ++ [copy]).filter _) ((s.history ++ [Event.begun id _]).filterMap _)
    rw [List.filter_append, List.filterMap_append, List.filter_singleton, hreadable]
    refine List.rel_append (h.ran.imp fun _ _ hother => ?_) (.cons ?_ .nil)
    · exact hother.modify id fun _ => ⟨rfl, rfl⟩
    · exact hcopy.modify id fun _ => ⟨rfl, rfl⟩

theorem ended (h : s.Copied) (id : ContextId) (m : ModuleId) (how : Exit) : (s.ended id m how).Copied where
  guarded := h.guarded.ended id m how
  saves := h.saves
  known copy hcopy := by
    obtain ⟨other, hother⟩ := h.known copy hcopy
    exact ⟨other, hother.modify id fun c => by cases how <;> exact ⟨rfl, rfl⟩⟩
  ran := by
    have hbodies : (s.ended id m how).bodies = s.bodies := by simp [bodies, Session.ended, Event.begun?]
    rw [hbodies]
    refine h.ran.imp fun _ _ hother => ?_
    exact hother.modify id fun c => by cases how <;> exact ⟨rfl, rfl⟩

end Copied

/-! ### Operations -/

/-- To keep copies and bodies together. -/
def copying : Discipline where
  inv := Copied
  rel _ _ := True
  fails _ := True
  refl _ := trivial
  trans _ _ := trivial
  raised _ := trivial
  thrown _ _ := trivial
  own := by
    rintro s _ ⟨⟩ h
    all_goals exact ⟨h.same rfl rfl (by simp) rfl rfl, trivial⟩

theorem copying_makes : copying.Makes where
  logged _ hs := ⟨hs.same rfl rfl (Nat.le_refl _) rfl rfl, trivial⟩
  unusable _ _ := trivial
  room _ := trivial
  unsaved {s t id c data why} hs _ hsave := by
    obtain ⟨n, hsaved⟩ := hs.saveCopy_apply c.canonical data
    cases hsaved.symm.trans hsave
  undecoded {s t id c data f} hs hread hsave hdecode := by
    obtain ⟨n, hsaved⟩ := hs.saveCopy_apply c.canonical data
    cases hsaved.symm.trans hsave
    refine ⟨hs.unreadable n ⟨c, hread.context, rfl, hread.bytes⟩ ?_, trivial⟩
    rw [Bool.eq_false_iff, ne_eq, Artifact.isReadable_iff c.qualified, hdecode]
    rintro ⟨code, ⟨⟩⟩
  ran {s s₁ s₂ t id c data code m body result} hs hread hsave hdecode hnew hbody hrun := by
    obtain ⟨n, hsaved⟩ := hs.saveCopy_apply c.canonical data
    cases hsaved.symm.trans hsave
    obtain ⟨rfl, unit, made, rfl⟩ := Action.newUnitModule_eq_ok hnew
    have hreadable : Artifact.isReadable data = true := (Artifact.isReadable_iff c.qualified).2 ⟨code, hdecode⟩
    have hcopy : s.IsCopyOf (c.canonical, data) id := ⟨c, hread.context, rfl, hread.bytes⟩
    have hbegun := hs.readable n hread.context hread.isFrozen hcopy hreadable unit made
    have ht := ((Discipline.keeps_attempt hbody).ok hbegun hrun).1
    exact ⟨ht.ended id _ _, trivial⟩

/-- The steps of emission save nothing, and artifacts that have copies are finished. -/
def copyingCompiling : Compiling where
  toDiscipline := copying
  aside h hs := ⟨hs.same h.contexts h.writers (by simp [h.modules]) h.sideStore h.history, trivial⟩
  created _ _ _ hs := ⟨hs.congr (hs.guarded.created rfl) rfl rfl fun _ _ hcopy => hcopy.concat _, trivial⟩
  opened _ name scope _ hs :=
    ⟨hs.congr (hs.guarded.opened name scope) rfl rfl fun _ _ hcopy => hcopy.concat _, trivial⟩
  written _ _ _ _ hw hv hs :=
    ⟨hs.congr (hs.guarded.written hw hv) rfl rfl fun _ _ hcopy => hcopy, trivial⟩
  sealed _ _ _ hw hopen hs :=
    ⟨hs.congr (hs.guarded.sealed hw hopen) rfl rfl fun _ _ hcopy => hcopy.sealed hs.guarded hw hopen, trivial⟩
  published _ _ _ _ _ hs := ⟨hs.same rfl rfl (Nat.le_refl _) rfl rfl, trivial⟩
  lenient _ := trivial
  materializes := copying_makes.materializes

theorem copying_perform (operation : Operation) : copying.Keeps operation.perform :=
  keeps_perform copyingCompiling (fun _ hs => ⟨hs.same rfl rfl (Nat.le_refl _) rfl rfl, trivial⟩) operation

/-- Where nothing has been compiled and nothing saved, there are neither copies nor bodies. -/
theorem IsFresh.copied (h : s.IsFresh) (hside : s.sideStore = .memory (fun _ => none) 0 []) :
    s.Copied := by
  have hcopies : s.copies = [] := by rw [copies, hside]
  have hbodies : s.bodies = [] := by rw [bodies, h.history]; rfl
  refine ⟨h.guarded, ⟨0, ?_⟩, ?_, ?_⟩
  · rw [hcopies, hside]
  · rw [hcopies]
    exact nofun
  · rw [hcopies, hbodies]
    exact .nil

/-! ## The last copy of a name -/

namespace Copied

/-- The copies of a name that can be decoded go together with the bodies of its contexts. -/
theorem ran_of (h : s.Copied) (name : String) : List.Forall₂ s.IsCopyOf
    ((s.copies.filter fun copy => Artifact.isReadable copy.2).filter (·.1 = name))
    (s.bodies.filter fun id => s.contexts[id]?.any (·.canonical = name)) := by
  refine List.rel_filter (fun copy id hcopy => ?_) h.ran
  obtain ⟨c, hc, hname, -⟩ := hcopy
  simp [hc, hname]

/-- **The last copy of a name is that of its last body**, if it can be decoded. -/
theorem copy?_eq (h : s.Copied) (hcopy : s.copy? name = some data)
    (hreadable : Artifact.isReadable data = true) :
    ∃ last, s.lastBody? name = some last ∧ s.IsCopyOf (name, data) last := by
  obtain ⟨⟨first, _⟩, hlast, rfl⟩ := Option.map_eq_some_iff.1 hcopy
  obtain rfl : first = name := by simpa using (List.mem_filter.1 (List.mem_of_getLast? hlast)).2
  refine Forall₂.getLast? (h.ran_of first) ?_
  rw [List.filter_comm]
  exact getLast?_filter hlast hreadable

/-- A context whose body was run has a copy that can be decoded. -/
theorem exists_copy (h : s.Copied) (hid : id ∈ s.bodies) (hc : s.contexts[id]? = some c)
    (hdata : c.artifact.bytes = .ok data) :
    (c.canonical, data) ∈ s.copies ∧ Artifact.isReadable data = true := by
  obtain ⟨⟨other, data'⟩, hcopy, c', hc', hother, hdata'⟩ := Forall₂.exists_of_mem h.ran hid
  obtain rfl := Option.some.inj (hc.symm.trans hc')
  obtain rfl := Except.ok.inj (hdata.symm.trans hdata')
  obtain rfl : c.canonical = other := hother
  exact List.mem_filter.1 hcopy

end Copied

/-! ## The copy of the active context -/

/-- **When the copy of a name is that of the active context.** Let nothing have been compiled yet, and let the
side store be an empty one in memory that refuses nothing. After any operations every copy in it is that of a
context under its canonical name, and those that can be decoded are, in order, the copies of the contexts whose
bodies were run. So there is a copy for each name whose active context was run, which is the copy of this
context exactly if it can be decoded and the context of the name whose body was run last has the same bytes. -/
theorem copies_iff (h : s.IsFresh) (hside : s.sideStore = .memory (fun _ => none) 0 [])
    (operations : List Operation) (ht : s.performed operations = t) :
    (∀ copy ∈ t.copies, ∃ id, t.IsCopyOf copy id) ∧
    List.Forall₂ t.IsCopyOf (t.copies.filter fun copy => Artifact.isReadable copy.2) t.bodies ∧
    ∀ canonical id c data, t.registry.lookup? canonical = some id → t.contexts[id]? = some c →
      c.artifact.bytes = .ok data → id ∈ t.bodies →
      ∃ copy, t.copy? canonical = some copy ∧ (copy = data ↔ Artifact.isReadable copy = true ∧
        ∃ last, t.lastBody? canonical = some last ∧ t.IsCopyOf (canonical, data) last) := by
  have hcopied : t.Copied := ht ▸ (inv_performed copying_perform operations (h.copied hside)).1
  have hkeyed : t.Keyed := ht ▸ ((Reachable.fresh h).performed operations).keyed
  refine ⟨hcopied.known, hcopied.ran, fun canonical id c data hid hc hdata hrun => ?_⟩
  obtain ⟨hmem, hreadable⟩ := hcopied.exists_copy hrun hc hdata
  obtain rfl : c.canonical = canonical := by
    obtain ⟨c', hc', hcanonical⟩ := hkeyed canonical id hid
    obtain rfl := Option.some.inj (hc.symm.trans hc')
    exact hcanonical
  obtain ⟨copy, hcopy⟩ := Option.isSome_iff_exists.1 (isSome_lastSet? hmem)
  refine ⟨copy, hcopy, ?_, ?_⟩
  · rintro rfl
    exact ⟨hreadable, hcopied.copy?_eq hcopy hreadable⟩
  · rintro ⟨hreadable', last, hlast, hdata'⟩
    obtain ⟨last', hlast', hcopy'⟩ := hcopied.copy?_eq hcopy hreadable'
    obtain rfl := Option.some.inj (hlast.symm.trans hlast')
    exact hcopy'.unique hdata'

/-! ## An older generation that is loaded later -/

/-- A session with an empty side store in memory. -/
def saving : Session := { sideStore := .memory (fun _ => none) 0 [] }

/-- Two generations of a unit are published; the newer one is loaded, and then the older one. -/
def regression : List Operation :=
  [.openOutput none .classOutput "p.A_ts1" .artifact none,
    .write 0 (Scenario.artifactOf "p.A_ts1" "x = 1\n"), .close 0,
    .openOutput none .classOutput "p.A_ts2" .artifact none,
    .write 1 (Scenario.artifactOf "p.A_ts2" "x = 2\n"), .close 1, .load 1, .load 0]

theorem saving_isFresh : saving.IsFresh := ⟨rfl, rfl, rfl, rfl, rfl, rfl⟩

theorem regression_result :
    (saving.performed regression).registry.lookup? "p.A" = some 1 ∧
    (saving.performed regression).bodies = [1, 0] ∧
    ((saving.performed regression).contexts[1]?.map (·.artifact.content)) =
      some (.frozen (Scenario.artifactOf "p.A_ts2" "x = 2\n")) ∧
    (saving.performed regression).copy? "p.A" = some (Scenario.artifactOf "p.A_ts1" "x = 1\n") ∧
    Scenario.artifactOf "p.A_ts1" "x = 1\n" ≠ Scenario.artifactOf "p.A_ts2" "x = 2\n" := by
  decide +kernel

/-- The newer generation is active and was loaded, but the copy is that of the older one. -/
theorem regression_copy : saving.IsFresh ∧ saving.sideStore = .memory (fun _ => none) 0 [] ∧
    ∃ c data, (saving.performed regression).registry.lookup? "p.A" = some 1 ∧
      (saving.performed regression).contexts[1]? = some c ∧ c.artifact.bytes = .ok data ∧
      1 ∈ (saving.performed regression).bodies ∧
      (saving.performed regression).copy? "p.A" ≠ some data := by
  obtain ⟨hid, hbodies, hcontent, hcopy, hne⟩ := regression_result
  obtain ⟨c, hc, hcontent⟩ := Option.map_eq_some_iff.1 hcontent
  have hdata : c.artifact.bytes = .ok (Scenario.artifactOf "p.A_ts2" "x = 2\n") := by
    rw [File.bytes, hcontent]
  refine ⟨saving_isFresh, rfl, c, _, hid, hc, hdata, ?_, ?_⟩
  · simp [hbodies]
  · rw [hcopy]
    exact fun heq => hne (Option.some.inj heq)

/-- So the last body of the name was not that of the active context. -/
theorem regression_copies : saving.IsFresh ∧ saving.sideStore = .memory (fun _ => none) 0 [] ∧
    ∃ copy data, (saving.performed regression).copy? "p.A" = some copy ∧ copy ≠ data ∧
      ¬ (Artifact.isReadable copy = true ∧ ∃ last, (saving.performed regression).lastBody? "p.A" = some last ∧
        (saving.performed regression).IsCopyOf ("p.A", data) last) := by
  obtain ⟨hid, hbodies, hcontent, hcopy, hne⟩ := regression_result
  obtain ⟨c, hc, hcontent⟩ := Option.map_eq_some_iff.1 hcontent
  have hdata : c.artifact.bytes = .ok (Scenario.artifactOf "p.A_ts2" "x = 2\n") := by
    rw [File.bytes, hcontent]
  obtain ⟨copy, hlast, hiff⟩ := (copies_iff saving_isFresh rfl regression rfl).2.2 "p.A" 1 c _ hid hc hdata
    (by simp [hbodies])
  obtain rfl := Option.some.inj (hlast.symm.trans hcopy)
  exact ⟨saving_isFresh, rfl, _, _, hlast, hne, fun hnot => hne (hiff.2 hnot)⟩

end Session

end UnitFoundry
