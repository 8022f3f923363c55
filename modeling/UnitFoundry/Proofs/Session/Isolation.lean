import UnitFoundry.Proofs.Loader.Failures
import UnitFoundry.Proofs.Session.Reachable

/-!
# Loaded units are left alone

Once a context holds a module, nothing that is done to the session afterwards touches either of them: not
the publication of other generations, not the loads of units that import it, and not the writers that are
still open. Other bodies bind names in modules of their own, so the names of its module change only where
they are set from outside of its body, of which the session keeps a record.

That a writer does not touch it is a matter of all writers. An open writer belongs to a context whose
artifact is not finished, and no other open writer belongs to the same; a context holds a module only if
its artifact is finished.

* `Session.Guarded` — open writers have unfinished artifacts of their own;
* `Session.LeftAlone` — a context and its module as they were, and no more runs;
* `Session.isolating` — to leave contexts alone, as a discipline and for compilations;
* `Reachable.guarded` — every reachable session is guarded;
* `Reachable.isolated` — **loaded units are left alone by whatever is done afterwards**.
-/

namespace UnitFoundry.Session

open Script Text

variable {s t u : Session} {id : ContextId} {c : Context} {m : ModuleId} {k : WriterId} {w : OpenWriter}

/-! ## Open writers -/

/-- Every writer belongs to a context. Open writers belong to different contexts, whose artifacts are not
finished; contexts that hold a module have a finished artifact. -/
structure Guarded (s : Session) : Prop where
  placed : ∀ (k : WriterId) (w : OpenWriter), s.writers[k]? = some w → w.context < s.contexts.length
  exclusive : ∀ (j k : WriterId) (v w : OpenWriter), s.writers[j]? = some v → s.writers[k]? = some w →
    v.writer.closed = false → w.writer.closed = false → v.context = w.context → j = k
  unfinished : ∀ (k : WriterId) (w : OpenWriter) (c : Context), s.writers[k]? = some w →
    w.writer.closed = false → s.contexts[w.context]? = some c → c.artifact.isFrozen = false
  finished : ∀ (id : ContextId) (c : Context) (m : ModuleId), s.contexts[id]? = some c → c.module? = some m →
    c.artifact.isFrozen = true ∧ m < s.modules.length

namespace Guarded

theorem congr (h : s.Guarded) (hc : t.contexts = s.contexts) (hw : t.writers = s.writers)
    (hm : s.modules.length ≤ t.modules.length) : t.Guarded where
  placed := by
    rw [hc, hw]
    exact h.placed
  exclusive := by
    rw [hw]
    exact h.exclusive
  unfinished := by
    rw [hc, hw]
    exact h.unfinished
  finished id c m hget hmodule := by
    obtain ⟨hfrozen, hlt⟩ := h.finished id c m (hc ▸ hget) hmodule
    exact ⟨hfrozen, Nat.lt_of_lt_of_le hlt hm⟩

/-- A context that holds a module has no open writer. -/
theorem context_ne (h : s.Guarded) (hw : s.writers[k]? = some w) (hopen : w.writer.closed = false)
    (hc : s.contexts[id]? = some c) (hm : c.module? = some m) : w.context ≠ id := by
  rintro rfl
  have hfrozen := (h.finished _ c m hc hm).1
  rw [h.unfinished k w c hw hopen hc] at hfrozen
  cases hfrozen

/-! ### The steps of emission -/

theorem created (h : s.Guarded) {made : Context} (hmade : made.module? = none) :
    Guarded { s with contexts := s.contexts ++ [made] } where
  placed k w hw := Nat.lt_of_lt_of_le (h.placed k w hw) (by simp)
  exclusive := h.exclusive
  unfinished k w c hw hopen hc := by
    rcases getElem?_concat_cases hc with hc | ⟨heq, rfl⟩
    · exact h.unfinished k w c hw hopen hc
    · exact absurd (heq ▸ h.placed k w hw) (Nat.lt_irrefl _)
  finished id c m hc hm := by
    rcases getElem?_concat_cases hc with hc | ⟨-, rfl⟩
    · exact h.finished id c m hc hm
    · simp [hmade] at hm

/-- A writer is opened for an unfinished artifact that no other writer belongs to. -/
theorem opens (h : s.Guarded) (scope : Option ScopeId) (hc : s.contexts[id]? = some c)
    (hfree : ∀ (k : WriterId) (w : OpenWriter), s.writers[k]? = some w → w.context ≠ id)
    (hopen : c.artifact.isFrozen = false) :
    Guarded { s with writers := s.writers ++ [{ context := id, scope }] } where
  placed k w hw := by
    rcases getElem?_concat_cases hw with hw | ⟨-, rfl⟩
    · exact h.placed k w hw
    · exact (List.getElem?_eq_some_iff.1 hc).1
  exclusive j k v w hv hw hvopen hwopen heq := by
    rcases getElem?_concat_cases hv with hv | ⟨rfl, rfl⟩
    · rcases getElem?_concat_cases hw with hw | ⟨rfl, rfl⟩
      · exact h.exclusive j k v w hv hw hvopen hwopen heq
      · exact absurd heq (hfree j v hv)
    · rcases getElem?_concat_cases hw with hw | ⟨rfl, rfl⟩
      · exact absurd heq.symm (hfree k w hw)
      · rfl
  unfinished k w c' hw hwopen hc' := by
    rcases getElem?_concat_cases hw with hw | ⟨-, rfl⟩
    · exact h.unfinished k w c' hw hwopen hc'
    · exact Option.some.inj (hc.symm.trans hc') ▸ hopen
  finished := h.finished

theorem opened (h : s.Guarded) (name : String) (scope : Option ScopeId) : Guarded { s with
    contexts := s.contexts ++ [Emission.opened name]
    writers := s.writers ++ [{ context := s.contexts.length, scope }] } := by
  have hcreated : Guarded { s with contexts := s.contexts ++ [Emission.opened name] } :=
    h.created rfl
  refine hcreated.opens scope List.getElem?_concat_length (fun k w hw => ?_) rfl
  exact Nat.ne_of_lt (h.placed k w hw)

/-- What a writer holds is of no importance. -/
theorem written (h : s.Guarded) (hw : s.writers[k]? = some w) {v : Writer}
    (hv : v.closed = w.writer.closed) :
    Guarded { s with writers := s.writers.modify k fun o => { o with writer := v } } := by
  -- every writer was there before, for the same context, and open if it is now
  have hbefore {j : WriterId} {o : OpenWriter}
      (ho : (s.writers.modify k fun o => { o with writer := v })[j]? = some o) :
      ∃ o', s.writers[j]? = some o' ∧ o'.context = o.context ∧ o'.writer.closed = o.writer.closed := by
    rcases getElem?_modify_cases ho with ⟨o', rfl, ho', rfl⟩ | ⟨-, ho'⟩
    · obtain rfl := Option.some.inj (hw.symm.trans ho')
      exact ⟨w, hw, rfl, hv.symm⟩
    · exact ⟨o, ho', rfl, rfl⟩
  exact
    { placed := fun j o ho => by
        obtain ⟨o', ho', hcontext, -⟩ := hbefore ho
        exact hcontext ▸ h.placed j o' ho'
      exclusive := fun i j o o₂ ho ho₂ hopen hopen₂ heq => by
        obtain ⟨o', ho', hcontext, hclosed⟩ := hbefore ho
        obtain ⟨o₂', ho₂', hcontext₂, hclosed₂⟩ := hbefore ho₂
        exact h.exclusive i j o' o₂' ho' ho₂' (hclosed.trans hopen) (hclosed₂.trans hopen₂)
          (hcontext.trans (heq.trans hcontext₂.symm))
      unfinished := fun j o c ho hopen hc => by
        obtain ⟨o', ho', hcontext, hclosed⟩ := hbefore ho
        exact h.unfinished j o' c ho' (hclosed.trans hopen) (hcontext ▸ hc)
      finished := h.finished }

/-- A writer that is open after another one was closed was open before, for another context. -/
theorem of_sealed (h : s.Guarded) (hw : s.writers[k]? = some w) (hopen : w.writer.closed = false)
    {j : WriterId} {o : OpenWriter} (ho : (Emission.sealed k w s).writers[j]? = some o)
    (hoopen : o.writer.closed = false) : s.writers[j]? = some o ∧ o.context ≠ w.context := by
  rcases getElem?_modify_cases ho with ⟨o', rfl, ho', rfl⟩ | ⟨hne, ho'⟩
  · cases hoopen
  · exact ⟨ho', fun heq => hne (h.exclusive j k o w ho' hw hoopen hopen heq).symm⟩

theorem sealed (h : s.Guarded) (hw : s.writers[k]? = some w) (hopen : w.writer.closed = false) :
    (Emission.sealed k w s).Guarded where
  placed j o ho := by
    rw [Emission.sealed, List.length_modify]
    rcases getElem?_modify_cases ho with ⟨o', rfl, ho', rfl⟩ | ⟨-, ho'⟩
    · exact h.placed k o' ho'
    · exact h.placed j o ho'
  exclusive i j o o' ho ho' hoopen hoopen' heq := by
    have hbefore := (h.of_sealed hw hopen ho hoopen).1
    have hbefore' := (h.of_sealed hw hopen ho' hoopen').1
    exact h.exclusive i j o o' hbefore hbefore' hoopen hoopen' heq
  unfinished j o c ho hoopen hc := by
    obtain ⟨hbefore, hne⟩ := h.of_sealed hw hopen ho hoopen
    rcases getElem?_modify_cases hc with ⟨c', heq, -, -⟩ | ⟨-, hc⟩
    · exact absurd heq.symm hne
    · exact h.unfinished j o c hbefore hoopen hc
  finished id c m hc hm := by
    rcases getElem?_modify_cases hc with ⟨c', rfl, hc', rfl⟩ | ⟨-, hc⟩
    · exact ⟨rfl, (h.finished _ c' m hc' hm).2⟩
    · exact h.finished id c m hc hm

/-! ### The steps of loads -/

/-- A context is given a module, or loses it. -/
theorem changed (h : s.Guarded) {change : Context → Context}
    (hartifact : ∀ c, (change c).artifact = c.artifact)
    (hmodule : ∀ c m, s.contexts[id]? = some c → (change c).module? = some m →
      c.artifact.isFrozen = true ∧ m < s.modules.length) :
    Guarded { s with contexts := s.contexts.modify id change } where
  placed k w hw := Nat.lt_of_lt_of_le (h.placed k w hw) (by simp)
  exclusive := h.exclusive
  unfinished k w c hw hopen hc := by
    rcases getElem?_modify_cases hc with ⟨c', rfl, hc', rfl⟩ | ⟨-, hc⟩
    · rw [hartifact]
      exact h.unfinished k w c' hw hopen hc'
    · exact h.unfinished k w c hw hopen hc
  finished other c m hc hm := by
    rcases getElem?_modify_cases hc with ⟨c', rfl, hc', rfl⟩ | ⟨-, hc⟩
    · rw [hartifact]
      exact hmodule c' m hc' hm
    · exact h.finished other c m hc hm

theorem begun (h : s.Guarded) (hc : s.contexts[id]? = some c) (hfrozen : c.artifact.isFrozen = true)
    (hm : m < s.modules.length) : (s.begun id m).Guarded := by
  refine Guarded.congr (s := { s with
    contexts := s.contexts.modify id fun c => { c with module? := some m } }) ?_ rfl rfl (Nat.le_refl _)
  refine h.changed (fun _ => rfl) fun c' m' hc' hm' => ?_
  obtain rfl := Option.some.inj (hc.symm.trans hc')
  obtain rfl := Option.some.inj hm'
  exact ⟨hfrozen, hm⟩

theorem ended (h : s.Guarded) (id : ContextId) (m : ModuleId) (how : Exit) :
    (s.ended id m how).Guarded := by
  refine Guarded.congr (s := { s with contexts := s.contexts.modify id how.settle }) ?_ rfl rfl
    (Nat.le_refl _)
  refine h.changed (fun c => ?_) fun c m hc hm => ?_
  · cases how <;> rfl
  · cases how with
    | completed => exact h.finished id c m hc hm
    | failed => cases hm
    | left => exact h.finished id c m hc hm

end Guarded

/-! ## Contexts that are left alone -/

/-- A context is as it was and its body has not run, and its module is as it was unless a name was set in
it from outside. -/
structure LeftAlone (id : ContextId) (m : ModuleId) (s t : Session) : Prop where
  context : t.contexts[id]? = s.contexts[id]?
  events : ∃ events, t.history = s.history ++ events ∧ ∀ e ∈ events, e.context ≠ id
  names : ∃ modules, t.assigned = s.assigned ++ modules ∧
    (m ∉ modules → t.modules[m]? = s.modules[m]?)

theorem getElem?_begun_ne {other : ContextId} (n : ModuleId) (h : other ≠ id) :
    (s.begun other n).contexts[id]? = s.contexts[id]? :=
  List.getElem?_modify_ne _ _ h

theorem getElem?_ended_ne {other : ContextId} (n : ModuleId) (how : Exit) (h : other ≠ id) :
    (s.ended other n how).contexts[id]? = s.contexts[id]? :=
  List.getElem?_modify_ne _ _ h

namespace LeftAlone

theorem of_unchanged (hc : t.contexts[id]? = s.contexts[id]?) (hh : t.history = s.history)
    (ha : t.assigned = s.assigned) (hm : t.modules[m]? = s.modules[m]?) : LeftAlone id m s t :=
  ⟨hc, ⟨[], by simp [hh], by simp⟩, [], by simp [ha], fun _ => hm⟩

theorem refl (id : ContextId) (m : ModuleId) (s : Session) : LeftAlone id m s s :=
  of_unchanged rfl rfl rfl rfl

theorem trans (h : LeftAlone id m s t) (h' : LeftAlone id m t u) : LeftAlone id m s u := by
  obtain ⟨hc, ⟨events, hevents, hothers⟩, modules, hmodules, hnames⟩ := h
  obtain ⟨hc', ⟨more, hmore, hothers'⟩, others, hassigned, hnames'⟩ := h'
  refine ⟨hc'.trans hc, ⟨events ++ more, ?_, fun e he => ?_⟩, modules ++ others, ?_, fun hm => ?_⟩
  · rw [hmore, hevents, List.append_assoc]
  · exact (List.mem_append.1 he).elim (hothers e) (hothers' e)
  · rw [hassigned, hmodules, List.append_assoc]
  · rw [hnames' fun hin => hm (List.mem_append_right _ hin),
      hnames fun hin => hm (List.mem_append_left _ hin)]

/-- The steps of another context's run leave this one alone. -/
theorem of_run {other : ContextId} {n : ModuleId} {how : Exit} (hne : other ≠ id)
    (h : LeftAlone id m (s.begun other n) t) : LeftAlone id m s (t.ended other n how) := by
  obtain ⟨hc, ⟨events, hevents, hothers⟩, modules, hmodules, hnames⟩ := h
  refine ⟨?_, ⟨.begun other n :: (events ++ [.ended other n how]), ?_, fun e he => ?_⟩, modules,
    hmodules, hnames⟩
  · rw [getElem?_ended_ne n how hne, hc, getElem?_begun_ne n hne]
  · simp [Session.ended, hevents, Session.begun]
  · rcases List.mem_cons.1 he with rfl | he
    · exact hne
    rcases List.mem_append.1 he with he | he
    · exact hothers e he
    · obtain rfl := List.mem_singleton.1 he
      exact hne

end LeftAlone

/-! ## Operations that leave contexts alone -/

variable {kept : ContextId → ModuleId → Prop}

/-- A guarded session in which some contexts hold certain modules. -/
structure Keeps (kept : ContextId → ModuleId → Prop) (s : Session) : Prop where
  guarded : s.Guarded
  held : ∀ id m, kept id m → ∃ c, s.contexts[id]? = some c ∧ c.module? = some m

/-- To leave contexts alone that hold certain modules. Bodies may bind names in other modules. -/
def isolating (kept : ContextId → ModuleId → Prop) : Discipline where
  inv := Keeps kept
  rel s t := ∀ id m, kept id m → LeftAlone id m s t
  fails _ := True
  refl s id m _ := .refl id m s
  trans h h' id m hkept := (h id m hkept).trans (h' id m hkept)
  raised _ := trivial
  thrown _ _ := trivial
  mayBind m := ∀ id, ¬ kept id m
  own := by
    rintro s _ ⟨⟩ ⟨hguarded, hheld⟩
    · exact ⟨⟨hguarded.congr rfl rfl (Nat.le_refl _), hheld⟩, fun id m _ =>
        .of_unchanged rfl rfl rfl rfl⟩
    · exact ⟨⟨hguarded.congr rfl rfl (Nat.le_refl _), hheld⟩, fun id m _ =>
        .of_unchanged rfl rfl rfl rfl⟩
    · rename_i n name value hbind
      refine ⟨⟨hguarded.congr rfl rfl (by simp), hheld⟩, fun id m hkept => ?_⟩
      have hne : n ≠ m := by
        rintro rfl
        exact hbind id hkept
      exact .of_unchanged rfl rfl rfl (List.getElem?_modify_ne _ _ hne)
    · rename_i n name value
      refine ⟨⟨hguarded.congr rfl rfl (by simp), hheld⟩, fun id m hkept => ?_⟩
      refine ⟨rfl, ⟨[], by simp, by simp⟩, [n], rfl, fun hm => ?_⟩
      refine List.getElem?_modify_ne _ _ fun heq => hm ?_
      simp [heq]

/-- What changes neither contexts nor writers, nor modules. -/
theorem Keeps.unchanged (h : Keeps kept s) (hc : t.contexts = s.contexts) (hw : t.writers = s.writers)
    (hm : t.modules = s.modules) (hh : t.history = s.history) (ha : t.assigned = s.assigned) :
    Keeps kept t ∧ ∀ id m, kept id m → LeftAlone id m s t := by
  refine ⟨⟨h.guarded.congr hc hw (by simp [hm]), ?_⟩, fun id m _ => ?_⟩
  · rw [hc]
    exact h.held
  · exact .of_unchanged (by rw [hc]) hh ha (by rw [hm])

/-- A change of the contexts and writers that leaves a session guarded and spares the contexts in
question. -/
theorem Keeps.emitted {contexts : List Context} {writers : List OpenWriter} (h : Keeps kept s)
    (hguarded : Guarded { s with contexts, writers })
    (hsame : ∀ id m, kept id m → contexts[id]? = s.contexts[id]?) :
    Keeps kept { s with contexts, writers } ∧
      ∀ id m, kept id m → LeftAlone id m s { s with contexts, writers } := by
  refine ⟨⟨hguarded, fun id m hkept => ?_⟩, fun id m hkept => ?_⟩
  · rw [hsame id m hkept]
    exact h.held id m hkept
  · exact .of_unchanged (hsame id m hkept) rfl rfl rfl

/-- One more context spares those that are there. -/
theorem Keeps.getElem?_concat (h : Keeps kept s) (made : Context) {id : ContextId} {m : ModuleId}
    (hkept : kept id m) : (s.contexts ++ [made])[id]? = s.contexts[id]? := by
  obtain ⟨c, hc, -⟩ := h.held id m hkept
  exact List.getElem?_append_left (List.getElem?_eq_some_iff.1 hc).1

/-- A run begins in another context, in a module that is new. -/
theorem isolating_hosts (kept : ContextId → ModuleId → Prop) : (isolating kept).Hosts where
  quiet _ _ _ hs := hs.unchanged rfl rfl rfl rfl rfl
  unusable _ _ := trivial
  room {s} hs id hkept := by
    obtain ⟨c, hc, hm⟩ := hs.held id _ hkept
    exact absurd (hs.guarded.finished id c _ hc hm).2 (Nat.lt_irrefl _)
  ran {s s₁ t id c m body result} hs hc hm hfrozen hnew hbody hrun := by
    obtain ⟨rfl, unit, made, rfl⟩ := Action.newUnitModule_eq_ok hnew
    -- the context that is run holds no module, so it is none of those in question
    have hne (other : ContextId) (n : ModuleId) (hkept : kept other n) : id ≠ other := by
      rintro rfl
      obtain ⟨c', hc', hm'⟩ := hs.held id n hkept
      obtain rfl := Option.some.inj (hc.symm.trans hc')
      cases hm.symm.trans hm'
    have hguarded : Guarded { s with made, modules := s.modules ++ [unit] } :=
      hs.guarded.congr rfl rfl (by simp)
    have hstart : Keeps kept
        (Session.begun { s with made, modules := s.modules ++ [unit] } id s.modules.length) := by
      refine ⟨hguarded.begun hc hfrozen (by simp), fun other n hkept => ?_⟩
      obtain ⟨c', hc', hm'⟩ := hs.held other n hkept
      refine ⟨c', ?_, hm'⟩
      rw [getElem?_begun_ne _ (hne other n hkept)]
      exact hc'
    obtain ⟨ht, halone⟩ := (Discipline.keeps_attempt hbody).ok hstart hrun
    refine ⟨⟨ht.guarded.ended id _ _, fun other n hkept => ?_⟩, fun other n hkept => ?_⟩
    · rw [getElem?_ended_ne _ _ (hne other n hkept)]
      exact ht.held other n hkept
    · have hmodule : (s.modules ++ [unit])[n]? = s.modules[n]? := by
        obtain ⟨c', hc', hm'⟩ := hs.held other n hkept
        exact List.getElem?_append_left (hs.guarded.finished other c' n hc' hm').2
      have hadded : LeftAlone other n s { s with made, modules := s.modules ++ [unit] } :=
        .of_unchanged rfl rfl rfl hmodule
      exact hadded.trans ((halone other n hkept).of_run (hne other n hkept))

/-- Compilations leave alone what holds a module: the only writer that they close is open. -/
def isolatingCompiling (kept : ContextId → ModuleId → Prop) : Compiling where
  toDiscipline := isolating kept
  aside h hs := hs.unchanged h.contexts h.writers h.modules h.history h.assigned
  created _ _ _ hs := hs.emitted (hs.guarded.created rfl) fun _ _ => hs.getElem?_concat _
  opened _ name scope _ hs :=
    hs.emitted (hs.guarded.opened name scope) fun _ _ => hs.getElem?_concat _
  written _ _ _ _ hw hv hs := hs.emitted (hs.guarded.written hw hv) fun _ _ _ => rfl
  sealed s k w hw hopen hs := by
    refine hs.emitted (hs.guarded.sealed hw hopen) fun id m hkept => ?_
    obtain ⟨c, hc, hm⟩ := hs.held id m hkept
    exact List.getElem?_modify_ne _ _ (hs.guarded.context_ne hw hopen hc hm)
  published _ _ _ _ _ hs := hs.unchanged rfl rfl rfl rfl rfl
  lenient _ := trivial
  materializes := (isolating_hosts kept).materializes

/-- **Every operation leaves alone what holds a module.** -/
theorem isolating_perform (kept : ContextId → ModuleId → Prop) (operation : Operation) :
    (isolating kept).Keeps operation.perform :=
  keeps_perform (isolatingCompiling kept) (fun _ hs => hs.unchanged rfl rfl rfl rfl rfl) operation

/-! ## Reachable sessions -/

theorem IsFresh.guarded (h : s.IsFresh) : s.Guarded where
  placed k w hw := by simp [h.writers] at hw
  exclusive j k v w hv := by simp [h.writers] at hv
  unfinished k w c hw := by simp [h.writers] at hw
  finished id c m hc := by simp [h.contexts] at hc

/-- **In a reachable session every open writer has an unfinished artifact of its own.** -/
theorem Reachable.guarded (h : s.Reachable) : s.Guarded := by
  have hfresh (t : Session) (ht : t.IsFresh) : (isolating fun _ _ => False).inv t :=
    ⟨ht.guarded, fun _ _ hnone => hnone.elim⟩
  have hkeeps : Keeps (fun _ _ => False) s := h.inv hfresh (isolating_perform _)
  exact hkeeps.guarded

/-- **Loaded units are left alone.** Whatever is done after a context has been given a module, it is the
same context, as ready as it was and with the same name and artifact, and every load of it hands out this
module and does nothing else. Its body is not run again, and the names of its module are what they were,
unless one was set in it from outside of its body. -/
theorem Reachable.isolated (h : s.Reachable) (hc : s.contexts[id]? = some c) (hm : c.module? = some m)
    (operations : List Operation) :
    (s.performed operations).contexts[id]? = some c ∧
    Loader.load id (s.performed operations) = .ok m (s.performed operations) ∧
    (∃ events, (s.performed operations).history = s.history ++ events ∧
      ∀ e ∈ events, e.context ≠ id) ∧
    ∃ modules, (s.performed operations).assigned = s.assigned ++ modules ∧
      (m ∉ modules → (s.performed operations).modules[m]? = s.modules[m]?) := by
  have hkeeps : Keeps (fun i n => i = id ∧ n = m) s := by
    refine ⟨h.guarded, ?_⟩
    rintro _ _ ⟨rfl, rfl⟩
    exact ⟨c, hc, hm⟩
  have hperformed := inv_performed (isolating_perform _) operations hkeeps
  obtain ⟨hcontext, hevents, hnames⟩ := hperformed.2 id m ⟨rfl, rfl⟩
  have hlater := hcontext.trans hc
  exact ⟨hlater, Loader.load_of_module hlater hm, hevents, hnames⟩

/-! ## A unit that is loaded -/

/-- A session with two units that import each other. One of them has been loaded, and with it the other. -/
def imported : Session :=
  (holdingUnits [("p.A_ts1", "import p.B as b\nx = 1\n"), ("p.B_ts1", "import p.A as a\n")]).performed
    [.load 0]

/-- A newer generation is published and loaded, and then nothing is active any more. -/
def renewal : List Operation :=
  [.openOutput none .classOutput "p.A_ts2" .artifact none,
    .write 2 (Scenario.artifactOf "p.A_ts2" "import p.B as b\nx = 2\n"), .close 2, .load 2, .clear]

theorem imported_holds :
    imported.contexts[0]?.map (fun c => (c.module?, c.ready)) = some (some 0, true) := by
  decide +kernel

theorem renewal_assigned : (imported.performed renewal).assigned = [] := by decide +kernel

theorem imported_isolated : imported.Reachable ∧ ∃ c, imported.contexts[0]? = some c ∧
    c.module? = some 0 ∧ (imported.performed renewal).contexts[0]? = some c ∧
    (imported.performed renewal).modules[0]? = imported.modules[0]? := by
  have hreachable : imported.Reachable := (holdingUnits_reachable _).performed _
  obtain ⟨c, hc, heq⟩ := Option.map_eq_some_iff.1 imported_holds
  have hm : c.module? = some 0 := congrArg Prod.fst heq
  obtain ⟨hlater, -, -, modules, hassigned, hnames⟩ := Reachable.isolated hreachable hc hm renewal
  rw [renewal_assigned] at hassigned
  have hnone : modules = [] := (List.append_eq_nil_iff.1 hassigned.symm).2
  exact ⟨hreachable, c, hc, hm, hlater, hnames (by simp [hnone])⟩

end UnitFoundry.Session
