import UnitFoundry.Proofs.Loader.Memory
import UnitFoundry.Proofs.Loader.Nesting
import UnitFoundry.Proofs.Loader.Untouched

/-!
# Histories

Whatever is done to a session adds runs of bodies to its history, after and inside one another. So in a
reachable session all runs have ended, and no two have had the same module. A run that has ended otherwise
than by a failure is the last one of its context, which holds the module from then on.

What becomes of a module that a context holds while bodies run can therefore be told from the history: a unit
is loaded in it in the end, unless the body that ran in it has failed after all.

* `Session.Advances`, `Session.advancing` — runs are added to a history;
* `Sound.load_begins` — a load begins with the body of its unit, or runs nothing at all;
* `Reachable.unfolds` — **the history of a reachable session consists of runs inside one another**;
* `Session.Numbered`, `Reachable.ended_unique` — runs have modules of their own;
* `Session.IsLoaded` — the modules of loaded units;
* `Reachable.isLoaded_iff` — **what becomes of a module that a context holds**.
-/

namespace UnitFoundry

open Script Text

/-! ## Runs that have begun or ended -/

namespace Event

/-- The module in which a run has begun or ended. -/
def module : Event → ModuleId
  | begun _ m => m
  | ended _ m _ => m

/-- Whether an event is the beginning of a run in a module. -/
def beginsIn (m : ModuleId) : Event → Bool
  | begun _ n => n = m
  | ended _ _ _ => false

/-- Whether an event is the end of a run in a module. -/
def endsIn (m : ModuleId) : Event → Bool
  | begun _ _ => false
  | ended _ n _ => n = m

end Event

namespace Event.Unfolds

variable {before events part rest : List Event} {id : ContextId} {m : ModuleId} {how : Exit}

/-- Every run that has begun has ended. -/
theorem exists_ended (h : Unfolds before events) (hbegun : .begun id m ∈ events) :
    ∃ how, .ended id m how ∈ events := by
  induction h with
  | nil => exact absurd hbegun List.not_mem_nil
  | run n how _ _ ih =>
    rcases List.mem_cons.1 hbegun with heq | hbegun
    · cases heq
      exact ⟨how, by simp [spanning]⟩
    rcases List.mem_append.1 hbegun with hbegun | hbegun
    · obtain ⟨how', hended⟩ := ih hbegun
      exact ⟨how', by simp [spanning, hended]⟩
    · cases List.mem_singleton.1 hbegun
  | append _ _ ih ihmore =>
    rcases List.mem_append.1 hbegun with hbegun | hbegun
    · obtain ⟨how, hended⟩ := ih hbegun
      exact ⟨how, List.mem_append_left _ hended⟩
    · obtain ⟨how, hended⟩ := ihmore hbegun
      exact ⟨how, List.mem_append_right _ hended⟩

/-- As many runs have ended in a module as have begun in it. -/
theorem countP_endsIn (h : Unfolds before events) (m : ModuleId) :
    events.countP (endsIn m) = events.countP (beginsIn m) := by
  induction h with
  | nil => rfl
  | run n how _ _ ih => by_cases hn : n = m <;> simp [spanning, beginsIn, endsIn, hn, ih]
  | append _ _ ih ihmore => rw [List.countP_append, List.countP_append, ih, ihmore]

/-- A run that has ended otherwise than by a failure is the last one of its context. -/
theorem context_ne_of_ended (h : Unfolds before events) (heq : events = part ++ rest)
    (hlast : lastOf id (before ++ part) = some (.ended id m how)) (hhow : how ≠ .failed) :
    ∀ e ∈ rest, e.context ≠ id := by
  have hstuck : ¬ CanBegin (some (.ended id m how)) := by
    cases how with
    | failed => exact absurd rfl hhow
    | completed => exact fun h => h
    | left => exact fun h => h
  induction h generalizing part rest with
  | nil =>
    obtain ⟨-, rfl⟩ := List.append_eq_nil_iff.1 heq.symm
    simp
  | @run before inside other n how' hbegin hinside ih =>
    cases part with
    | nil =>
      -- the run in question has ended before this one begins
      rw [List.append_nil] at hlast
      rw [List.nil_append] at heq
      exact heq ▸ (Unfolds.run n how' hbegin hinside).context_ne (hlast ▸ hstuck)
    | cons e part =>
      obtain ⟨rfl, hsplit⟩ := List.cons.inj heq
      rcases List.eq_nil_or_concat rest with rfl | ⟨rest, last, rfl⟩
      · simp
      -- it has ended inside this one, whose own end comes last
      rw [List.concat_eq_append] at hsplit ⊢
      replace hsplit : inside ++ [.ended other n how'] = (part ++ rest) ++ [last] := by
        simpa using hsplit
      obtain ⟨rfl, hend⟩ := List.append_inj' hsplit rfl
      obtain rfl := (List.cons.inj hend).1
      have hlast' : lastOf id (before ++ [.begun other n] ++ part) = some (.ended id m how) := by
        simpa using hlast
      have hother : other ≠ id := by
        rintro rfl
        rw [lastOf_append_of_ne fun e he => hinside.inside_ne e (List.mem_append_left _ he)] at hlast'
        simp at hlast'
      intro e he
      rcases List.mem_append.1 he with he | he
      · exact ih rfl hlast' e he
      · obtain rfl := List.mem_singleton.1 he
        exact hother
  | @append before first more hfirst hmore ih ihmore =>
    rcases List.append_eq_append_iff.1 heq with ⟨middle, rfl, rfl⟩ | ⟨middle, rfl, rfl⟩
    · exact ihmore rfl (by simpa using hlast)
    · have hmiddle := ih rfl hlast
      have hlater : lastOf id (before ++ (part ++ middle)) = some (.ended id m how) := by
        rw [← List.append_assoc, lastOf_append_of_ne hmiddle, hlast]
      have hmore' : ∀ e ∈ more, e.context ≠ id := hmore.context_ne (hlater ▸ hstuck)
      intro e he
      exact (List.mem_append.1 he).elim (hmiddle e) (hmore' e)

end Event.Unfolds

namespace Session

open Event

variable {s t u : Session} {id other : ContextId} {c : Context} {m n : ModuleId} {how : Exit}

/-! ## Sessions that advance -/

/-- Runs after and inside one another lead from one session to another, in which there may be more
contexts. -/
def Advances (s t : Session) : Prop :=
  ∃ events, t.history = s.history ++ events ∧ Event.Unfolds s.history events

namespace Advances

theorem of_history (h : t.history = s.history) : Advances s t := ⟨[], by simp [h], .nil _⟩

theorem trans (hst : Advances s t) (htu : Advances t u) : Advances s u := by
  obtain ⟨events, hevents, hunfolds⟩ := hst
  obtain ⟨more, hmore, hunfolds'⟩ := htu
  rw [hevents] at hmore hunfolds'
  exact ⟨events ++ more, by rw [hmore, List.append_assoc], hunfolds.append hunfolds'⟩

end Advances

/-- To keep a session sound, by runs after and inside one another. -/
def advancing : Discipline where
  inv := Sound
  rel := Advances
  fails _ := True
  refl _ := .of_history rfl
  trans := Advances.trans
  raised _ := trivial
  thrown _ _ := trivial
  own := by
    rintro s _ ⟨⟩ h
    all_goals exact ⟨h.congr rfl rfl rfl, .of_history rfl⟩

theorem advancing_hosts : advancing.Hosts where
  quiet _ _ _ hs := ⟨hs.congr rfl rfl rfl, .of_history rfl⟩
  unusable _ _ := trivial
  room _ := trivial
  ran {s s₁ t id c m body result} hs hc hm _ hnew hbody hrun := by
    obtain ⟨rfl, unit, made, rfl⟩ := Action.newUnitModule_eq_ok hnew
    have hs₁ : Sound { s with made, modules := s.modules ++ [unit] } := hs.congr rfl rfl rfl
    obtain ⟨ht, inside, hinside, hunfolds⟩ :=
      (Discipline.keeps_attempt hbody).ok (hs₁.begun hc hm s.modules.length) hrun
    obtain ⟨hended, hhistory, hran⟩ := hs₁.unfolds_run hc hm ht hinside hunfolds (.of result)
    exact ⟨hended, _, hhistory, hran⟩

/-! ### How loads begin -/

/-- **A load begins with the body of its unit, or runs nothing at all.** If it runs nothing, all that is
different afterwards are a copy that was saved and the log. -/
theorem Sound.load_begins (hs : s.Sound) (id : ContextId) :
    (∃ sideStore disk log, leftBy (Loader.load id s) = { s with sideStore, disk, log }) ∨
      ∃ m events, (leftBy (Loader.load id s)).history = s.history ++ .begun id m :: events := by
  have hlevel : advancing.Governs (Loader.inside s) :=
    Discipline.governs_callEngine (advancing_hosts.materializes.keeps_loaderWithin _) _
  rcases Loader.making (Loader.inside s) id s with
    @⟨f, -, hf, hmake⟩ | @⟨c, m, -, -, hmake⟩ | @⟨c, data, why, t, -, hsave, -, hmake⟩ |
    @⟨c, data, f, t, -, hsave, hdecode, hmake⟩ |
    @⟨c, data, code, m, result, s₁, s₂, t, hread, hsave, -, hnew, -, hrun, hmake⟩
  · have hload : Loader.load id s = Loader.withWording (throw f) s := Loader.load_of_goes_on hmake
    rw [hload, Loader.withWording_of_isOfReading hf s]
    exact .inl ⟨s.sideStore, s.disk, s.log, rfl⟩
  · have hload : Loader.load id s = Loader.withWording (pure m) s := Loader.load_of_goes_on hmake
    rw [hload]
    exact .inl ⟨s.sideStore, s.disk, s.log, rfl⟩
  · obtain ⟨sideStore, disk, log, rfl⟩ := Action.attempt_saveCopy (Action.attempt_error hsave)
    have hload : Loader.load id s = Loader.withWording (throw (.raised why)) _ :=
      Loader.load_of_goes_on hmake
    rw [hload, Loader.withWording_of_isOfReading (f := .raised why) trivial]
    exact .inl ⟨sideStore, disk, log, rfl⟩
  · obtain ⟨sideStore, disk, log, rfl⟩ := Action.attempt_saveCopy (Action.attempt_ok hsave)
    have hload : Loader.load id s = Loader.withWording (throw f) _ := Loader.load_of_goes_on hmake
    rw [hload, Loader.withWording_of_isOfReading (Artifact.decode_fails hdecode)]
    exact .inl ⟨sideStore, disk, log, rfl⟩
  · obtain ⟨sideStore, disk, log, rfl⟩ := Action.attempt_saveCopy (Action.attempt_ok hsave)
    obtain ⟨rfl, unit, made, rfl⟩ := Action.newUnitModule_eq_ok hnew
    have hs₁ : Sound { s with sideStore, disk, log, made, modules := s.modules ++ [unit] } :=
      hs.congr rfl rfl rfl
    have hbody := Discipline.keeps_runBody hlevel (m := s.modules.length) trivial code
    obtain ⟨ht, inside, hinside, hunfolds⟩ :=
      (Discipline.keeps_attempt hbody).ok (hs₁.begun hread.context hread.unloaded _) hrun
    obtain ⟨hended, hhistory, -⟩ :=
      hs₁.unfolds_run hread.context hread.unloaded ht hinside hunfolds (.of result)
    have hrest := advancing_hosts.materializes.keeps_withWording
      (advancing_hosts.makes.keeps_conclude hlevel c s.modules.length result)
    obtain ⟨-, events, hevents, -⟩ := hrest.leftBy hended
    rw [Loader.load_of_goes_on hmake]
    refine .inr ⟨s.modules.length, inside ++ [.ended id s.modules.length (.of result)] ++ events, ?_⟩
    rw [hevents, hhistory]
    simp [spanning]

/-- The steps of emission run nothing. -/
def advancingCompiling : Compiling where
  toDiscipline := advancing
  aside h hs := ⟨(soundCompiling.aside h hs).1, .of_history h.history⟩
  created s name _ hs := ⟨(soundCompiling.created s name trivial hs).1, .of_history rfl⟩
  opened s name scope _ hs := ⟨(soundCompiling.opened s name scope trivial hs).1, .of_history rfl⟩
  written s id w v hw hv hs := ⟨(soundCompiling.written s id w v hw hv hs).1, .of_history rfl⟩
  sealed s id w hw hopen hs := ⟨(soundCompiling.sealed s id w hw hopen hs).1, .of_history rfl⟩
  published s id c hc _ hs := ⟨(soundCompiling.published s id c hc trivial hs).1, .of_history rfl⟩
  lenient _ := trivial
  materializes := advancing_hosts.materializes

theorem advancing_perform (operation : Operation) : advancing.Keeps operation.perform := by
  refine keeps_perform advancingCompiling (fun s hs => ⟨?_, .of_history rfl⟩) operation
  exact ⟨hs.known, hs.told, fun _ _ hl => nomatch hl⟩

/-- **The history of a reachable session consists of runs after and inside one another.** -/
theorem Reachable.unfolds (h : s.Reachable) : Event.Unfolds [] s.history := by
  induction h with
  | fresh h =>
    rw [h.history]
    exact .nil []
  | step h operation ih =>
    obtain ⟨-, events, hevents, hunfolds⟩ := inv_after (advancing_perform operation) h.sound
    rw [hevents]
    exact ih.append hunfolds

/-- In a reachable session a run that has ended otherwise than by a failure is the last one of its
context. -/
theorem Reachable.lastEvent?_of_ended (h : s.Reachable) (hended : .ended id m how ∈ s.history)
    (hhow : how ≠ .failed) : s.lastEvent? id = some (.ended id m how) := by
  obtain ⟨before, after, heq⟩ := List.append_of_mem hended
  have hsplit : s.history = (before ++ [.ended id m how]) ++ after := by simp [heq]
  have hafter : ∀ e ∈ after, e.context ≠ id :=
    h.unfolds.context_ne_of_ended hsplit (lastOf_ended id m how before) hhow
  show lastOf id s.history = _
  rw [hsplit, lastOf_append_of_ne hafter, lastOf_ended]

/-! ## Modules of runs -/

/-- Runs have modules that are there, and each a module of its own. -/
structure Numbered (s : Session) : Prop where
  bounded : ∀ e ∈ s.history, e.module < s.modules.length
  alone : ∀ m, s.history.countP (beginsIn m) ≤ 1

namespace Numbered

theorem congr (h : s.Numbered) (hh : t.history = s.history)
    (hm : s.modules.length ≤ t.modules.length) : t.Numbered where
  bounded e he := Nat.lt_of_lt_of_le (h.bounded e (hh ▸ he)) hm
  alone := by
    rw [hh]
    exact h.alone

/-- A run begins in a module in which none has begun. -/
theorem begun (h : s.Numbered) (id : ContextId) {unit : UnitModule} {made : Nat} :
    (Session.begun { s with made, modules := s.modules ++ [unit] } id s.modules.length).Numbered where
  bounded e he := by
    show e.module < (s.modules ++ [unit]).length
    rw [List.length_append]
    rcases List.mem_append.1 he with he | he
    · exact Nat.lt_add_right 1 (h.bounded e he)
    · obtain rfl := List.mem_singleton.1 he
      exact Nat.lt_add_one _
  alone m := by
    show (s.history ++ [Event.begun id s.modules.length]).countP (beginsIn m) ≤ 1
    rw [List.countP_append]
    by_cases hm : s.modules.length = m
    · subst hm
      have hnone : s.history.countP (beginsIn s.modules.length) = 0 := by
        refine List.countP_eq_zero.2 fun e he hbegins => ?_
        have hlt := h.bounded e he
        cases e with
        | begun _ n =>
          obtain rfl : n = s.modules.length := by simpa [beginsIn] using hbegins
          exact Nat.lt_irrefl _ hlt
        | ended => cases hbegins
      rw [hnone, Nat.zero_add]
      exact List.countP_le_length
    · simpa [beginsIn, hm] using h.alone m

theorem ended (h : s.Numbered) (id : ContextId) (hm : m < s.modules.length) (how : Exit) :
    (s.ended id m how).Numbered where
  bounded e he := by
    rcases List.mem_append.1 he with he | he
    · exact h.bounded e he
    · obtain rfl := List.mem_singleton.1 he
      exact hm
  alone n := by
    show (s.history ++ [Event.ended id m how]).countP (beginsIn n) ≤ 1
    simpa [beginsIn] using h.alone n

end Numbered

/-- To run bodies in modules of their own. -/
def numbering : Discipline where
  inv := Numbered
  rel s t := s.modules.length ≤ t.modules.length
  fails _ := True
  refl _ := Nat.le_refl _
  trans := Nat.le_trans
  raised _ := trivial
  thrown _ _ := trivial
  own := by
    rintro s _ ⟨⟩ h
    all_goals exact ⟨h.congr rfl (by simp), by simp⟩

theorem numbering_hosts : numbering.Hosts where
  quiet _ _ _ hs := ⟨hs.congr rfl (Nat.le_refl _), Nat.le_refl _⟩
  unusable _ _ := trivial
  room _ := trivial
  ran {s s₁ t id c m body result} hs hc hm _ hnew hbody hrun := by
    obtain ⟨rfl, unit, made, rfl⟩ := Action.newUnitModule_eq_ok hnew
    obtain ⟨ht, hle⟩ := (Discipline.keeps_attempt hbody).ok (hs.begun id) hrun
    have hlt : s.modules.length < t.modules.length :=
      Nat.lt_of_lt_of_le (by simp [Session.begun]) hle
    exact ⟨ht.ended id hlt _, Nat.le_of_lt hlt⟩

/-- The steps of emission make no modules. -/
def numberingCompiling : Compiling where
  toDiscipline := numbering
  aside {s t} h hs := by
    have hle : s.modules.length ≤ t.modules.length := Nat.le_of_eq (congrArg _ h.modules.symm)
    exact ⟨hs.congr h.history hle, hle⟩
  created _ _ _ hs := ⟨hs.congr rfl (Nat.le_refl _), Nat.le_refl _⟩
  opened _ _ _ _ hs := ⟨hs.congr rfl (Nat.le_refl _), Nat.le_refl _⟩
  written _ _ _ _ _ _ hs := ⟨hs.congr rfl (Nat.le_refl _), Nat.le_refl _⟩
  sealed _ _ _ _ _ hs := ⟨hs.congr rfl (Nat.le_refl _), Nat.le_refl _⟩
  published _ _ _ _ _ hs := ⟨hs.congr rfl (Nat.le_refl _), Nat.le_refl _⟩
  lenient _ := trivial
  materializes := numbering_hosts.materializes

theorem numbering_perform (operation : Operation) : numbering.Keeps operation.perform :=
  keeps_perform numberingCompiling (fun _ hs => ⟨hs.congr rfl (Nat.le_refl _), Nat.le_refl _⟩) operation

theorem IsFresh.numbered (h : s.IsFresh) : s.Numbered where
  bounded e he := by simp [h.history] at he
  alone m := by simp [h.history]

theorem Reachable.numbered (h : s.Reachable) : s.Numbered :=
  h.inv (fun _ hfresh => hfresh.numbered) numbering_perform

/-- In a reachable session at most one run has ended in a module. -/
theorem Reachable.ended_unique {how' : Exit} (h : s.Reachable) (hended : .ended id m how ∈ s.history)
    (hended' : .ended other m how' ∈ s.history) : id = other ∧ how = how' := by
  have hcount : (s.history.filter (endsIn m)).length ≤ 1 := by
    rw [← List.countP_eq_length_filter, h.unfolds.countP_endsIn]
    exact h.numbered.alone m
  have hsame := eq_of_length_le_one hcount (List.mem_filter.2 ⟨hended, by simp [endsIn]⟩)
    (List.mem_filter.2 ⟨hended', by simp [endsIn]⟩)
  injection hsame with hid _ hhow
  exact ⟨hid, hhow⟩

/-! ## Contexts that hold a module -/

/-- A module is the one of a loaded unit. -/
def IsLoaded (s : Session) (m : ModuleId) : Prop :=
  ∃ (id : ContextId) (c : Context), s.contexts[id]? = some c ∧ c.module? = some m ∧ c.ready = true

theorem Sound.isLoaded_of_ranToEnd (h : s.Sound) (hran : s.RanToEnd id m) : s.IsLoaded m := by
  obtain ⟨c, hc, hm⟩ := h.holds_iff_last.2 (.inr (.inl hran))
  exact ⟨id, c, hc, hm, (h.ready_iff hc).2 ⟨m, hran⟩⟩

/-- As a session advances, contexts go on holding what they hold. -/
theorem Holds.advances (h : s.Holds id m) (hs : s.Sound) (ht : t.Sound) (hst : Advances s t) :
    t.Holds id m := by
  obtain ⟨events, hevents, hunfolds⟩ := hst
  obtain ⟨c, hc, hm⟩ := h
  have hstuck : ¬ CanBegin (lastOf id s.history) := by
    rw [hs.canBegin_iff hc, hm]
    exact Option.some_ne_none m
  have hsame : t.lastEvent? id = s.lastEvent? id := by
    show lastOf id t.history = lastOf id s.history
    rw [hevents, lastOf_append_of_ne (hunfolds.context_ne hstuck)]
  have hlast := hs.holds_iff_last.1 ⟨c, hc, hm⟩
  rw [ht.holds_iff_last]
  simpa only [Runs, RanToEnd, WasLeft, hsame] using hlast

/-- What becomes of a module that a context holds: a unit is loaded in it in the end, unless its body runs
still and fails, or is left. -/
theorem Reachable.isLoaded_iff (h : s.Reachable) (ht : t.Sound) (hlater : t.history <+: s.history)
    (hheld : t.Holds id m) (hleft : ¬ s.WasLeft id m) :
    s.IsLoaded m ↔ ¬ (t.Runs id m ∧ .ended id m .failed ∈ s.history) := by
  constructor
  · rintro ⟨other, c, hc, hm, hready⟩ ⟨-, hfailed⟩
    obtain ⟨n, hran⟩ := (h.sound.ready_iff hc).1 hready
    have hafter := h.sound.told other c hc
    rw [hran] at hafter
    obtain rfl := Option.some.inj (hm.symm.trans hafter.1)
    cases (h.ended_unique hfailed (lastEvent?_mem hran)).2
  · intro hnot
    have hloaded {how : Exit} (hmem : .ended id m how ∈ s.history) (hhow : how ≠ .failed) :
        s.IsLoaded m := by
      have hlast := h.lastEvent?_of_ended hmem hhow
      cases how with
      | completed => exact h.sound.isLoaded_of_ranToEnd hlast
      | failed => exact absurd rfl hhow
      | left => exact absurd hlast hleft
    rcases ht.holds_iff_last.1 hheld with hruns | hran | hwas
    · obtain ⟨how, hmem⟩ := h.unfolds.exists_ended (hlater.subset (lastEvent?_mem hruns))
      refine hloaded hmem ?_
      rintro rfl
      exact hnot ⟨hruns, hmem⟩
    · exact hloaded (hlater.subset (lastEvent?_mem hran)) (by decide)
    · exact hloaded (hlater.subset (lastEvent?_mem hwas)) (by decide)

end Session

end UnitFoundry
