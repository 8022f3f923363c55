import UnitFoundry.Proofs.Loader.Failures
import UnitFoundry.Proofs.Session.Reachable
import Mathlib.Data.List.Perm.Subperm

/-!
# Bodies that run inside one another

A load runs the body of a unit, which loads other units, whose bodies load others again. A context whose
body runs holds a module already, and a load of it inside its own run hands out this module. So no body
runs inside itself, and no more bodies run inside one another than there were contexts without a module.

A body that has failed is another matter: its context holds no module any more, and the next load runs it
again. This may happen within one and the same load. The failure is worded after the context has lost
its module, by what the body has defined, and the wording may load the unit again; and if the wording
fails in its turn, what leaves the load is a plain exception that other bodies may handle.

* `Event.Unfolds` — runs of bodies after and inside one another;
* `Event.runsOf`, `Event.inProgress` — the runs of one context, and the contexts whose bodies run;
* `Session.unfolding` — **loads and calls unfold into such runs**, as a discipline;
* `Session.LoadsOnce` — every body is run once, and ends as the load does;
* `Reachable.loadsOnce_iff` — **a load does so exactly if it passes over no failure**;
* `wording_starts` — a body that is run again by the wording of its own failure.
-/

namespace UnitFoundry

open Script Text

namespace Event

/-! ## Events of one context -/

/-- The last event of a context's unit among some events. -/
def lastOf (id : ContextId) (events : List Event) : Option Event :=
  (events.filter (·.context = id)).getLast?

/-- A run may begin after an event: nothing has happened yet, or the last run has failed. -/
def CanBegin : Option Event → Prop
  | none => True
  | some (.ended _ _ .failed) => True
  | some _ => False

/-- The module and the end of a run, if the event is the end of a run of a context's unit. -/
def run? (id : ContextId) : Event → Option (ModuleId × Exit)
  | begun _ _ => none
  | ended other m how => if other = id then some (m, how) else none

/-- The runs of a context's unit that have ended, oldest first. -/
def runsOf (id : ContextId) (events : List Event) : List (ModuleId × Exit) :=
  events.filterMap (run? id)

/-- Whether an event is the beginning of a run of a context's unit. -/
def begins (id : ContextId) : Event → Bool
  | begun other _ => other = id
  | ended _ _ _ => false

/-- How often the body of a context's unit was started. -/
def starts (id : ContextId) (events : List Event) : Nat := events.countP (begins id)

variable {id other : ContextId} {m : ModuleId} {how : Exit} {before events more : List Event} {e : Event}

theorem lastOf_concat_self (h : e.context = id) : lastOf id (before ++ [e]) = some e := by
  simp [lastOf, h]

@[simp]
theorem lastOf_begun (id : ContextId) (m : ModuleId) (before : List Event) :
    lastOf id (before ++ [.begun id m]) = some (.begun id m) :=
  lastOf_concat_self rfl

@[simp]
theorem lastOf_ended (id : ContextId) (m : ModuleId) (how : Exit) (before : List Event) :
    lastOf id (before ++ [.ended id m how]) = some (.ended id m how) :=
  lastOf_concat_self rfl

theorem lastOf_append_of_ne (h : ∀ e ∈ events, e.context ≠ id) :
    lastOf id (before ++ events) = lastOf id before := by
  have hnone : events.filter (·.context = id) = [] := by simpa using h
  simp [lastOf, hnone]

theorem lastOf_begun_ne (h : other ≠ id) (m : ModuleId) :
    lastOf id (before ++ [.begun other m]) = lastOf id before :=
  lastOf_append_of_ne (by simpa [context] using h)

theorem lastOf_ended_ne (h : other ≠ id) (m : ModuleId) (how : Exit) :
    lastOf id (before ++ [.ended other m how]) = lastOf id before :=
  lastOf_append_of_ne (by simpa [context] using h)

@[simp]
theorem runsOf_append (id : ContextId) (events more : List Event) :
    runsOf id (events ++ more) = runsOf id events ++ runsOf id more :=
  List.filterMap_append

@[simp]
theorem starts_append (id : ContextId) (events more : List Event) :
    starts id (events ++ more) = starts id events + starts id more :=
  List.countP_append

theorem runsOf_eq_nil (h : ∀ e ∈ events, e.context ≠ id) : runsOf id events = [] := by
  refine List.filterMap_eq_nil_iff.2 fun e he => ?_
  cases e with
  | begun => rfl
  | ended => exact if_neg (h _ he)

/-- A run that has ended is told of by its end. -/
theorem mem_runsOf : (m, how) ∈ runsOf id events ↔ Event.ended id m how ∈ events := by
  rw [runsOf, List.mem_filterMap]
  constructor
  · rintro ⟨e, he, hrun⟩
    cases e with
    | begun => cases hrun
    | ended other n end_ =>
      simp only [run?, Option.ite_none_right_eq_some, Option.some.injEq, Prod.mk.injEq] at hrun
      obtain ⟨rfl, rfl, rfl⟩ := hrun
      exact he
  · intro h
    exact ⟨_, h, if_pos rfl⟩

/-! ## Runs inside one another -/

/-- The events of a run, with those that lie inside. -/
def spanning (id : ContextId) (m : ModuleId) (how : Exit) (inside : List Event) : List Event :=
  .begun id m :: (inside ++ [.ended id m how])

theorem append_spanning (before : List Event) (id : ContextId) (m : ModuleId) (how : Exit)
    (inside : List Event) : before ++ spanning id m how inside =
      before ++ [.begun id m] ++ inside ++ [.ended id m how] := by
  simp [spanning]

theorem runsOf_spanning (id other : ContextId) (m : ModuleId) (how : Exit) (inside : List Event) :
    runsOf id (spanning other m how inside) =
      runsOf id inside ++ if other = id then [(m, how)] else [] := by
  have happend : runsOf id (spanning other m how inside) =
      runsOf id inside ++ runsOf id [.ended other m how] := runsOf_append id inside _
  rw [happend]
  by_cases hother : other = id <;> simp [runsOf, run?, hother]

theorem starts_spanning (id other : ContextId) (m : ModuleId) (how : Exit) (inside : List Event) :
    starts id (spanning other m how inside) = starts id inside + if other = id then 1 else 0 := by
  by_cases hother : other = id <;> simp [starts, begins, spanning, hother]

/-- Runs after and inside one another, given what has happened before. A run begins only if the last one
of its context has failed. -/
inductive Unfolds : List Event → List Event → Prop where
  | nil (before : List Event) : Unfolds before []
  | run {before inside : List Event} {id : ContextId} (m : ModuleId) (how : Exit)
    (hbegin : CanBegin (lastOf id before)) (hinside : Unfolds (before ++ [.begun id m]) inside) :
    Unfolds before (spanning id m how inside)
  | append {before events more : List Event} (h : Unfolds before events)
    (hmore : Unfolds (before ++ events) more) : Unfolds before (events ++ more)

namespace Unfolds

/-- A context that holds a module, because its body runs or has ended otherwise than by a failure, is
left alone. -/
theorem context_ne (h : Unfolds before events) (hid : ¬ CanBegin (lastOf id before)) :
    ∀ e ∈ events, e.context ≠ id := by
  induction h with
  | nil => simp
  | @run before inside other m how hbegin _ ih =>
    have hother : other ≠ id := by
      rintro rfl
      exact hid hbegin
    have hinside := ih (by rwa [lastOf_begun_ne hother])
    intro e he
    rcases List.mem_cons.1 he with rfl | he
    · exact hother
    rcases List.mem_append.1 he with he | he
    · exact hinside e he
    · obtain rfl := List.mem_singleton.1 he
      exact hother
  | append _ _ ih ihmore =>
    have hfirst := ih hid
    have hsecond := ihmore (by rwa [lastOf_append_of_ne hfirst])
    intro e he
    exact (List.mem_append.1 he).elim (hfirst e) (hsecond e)

/-- No body runs inside itself. -/
theorem inside_ne (h : Unfolds (before ++ [.begun id m]) events) : ∀ e ∈ events, e.context ≠ id :=
  h.context_ne fun hcan => by rwa [lastOf_begun] at hcan

theorem canBegin_before (h : Unfolds before events) (hafter : CanBegin (lastOf id (before ++ events))) :
    CanBegin (lastOf id before) := by
  by_contra hid
  rw [lastOf_append_of_ne (h.context_ne hid)] at hafter
  exact hid hafter

/-- The last event of a context is the end of its last run. -/
theorem lastOf_eq (h : Unfolds before events) (id : ContextId) : lastOf id (before ++ events) =
    ((runsOf id events).getLast?.map fun r => Event.ended id r.1 r.2).or (lastOf id before) := by
  induction h with
  | nil before => simp [runsOf]
  | @run before inside other m how _ _ ih =>
    rw [append_spanning, runsOf_spanning]
    by_cases hother : other = id
    · subst hother
      rw [lastOf_ended]
      simp
    · rw [lastOf_ended_ne hother, ih, lastOf_begun_ne hother]
      simp [hother]
  | @append before events more _ _ ih ihmore =>
    rw [← List.append_assoc, ihmore, ih, runsOf_append, List.getLast?_append]
    cases (runsOf id more).getLast? <;> simp

/-- Every body that was started has been run to one of its ends. -/
theorem starts_eq (h : Unfolds before events) (id : ContextId) :
    starts id events = (runsOf id events).length := by
  induction h with
  | nil => rfl
  | run m how _ _ ih =>
    rw [starts_spanning, runsOf_spanning, ih, List.length_append]
    split <;> rfl
  | append _ _ ih ihmore => rw [starts_append, runsOf_append, List.length_append, ih, ihmore]

/-! ### Runs of one context -/

/-- If a context can be run again, all its runs have failed. -/
theorem failed_of_canBegin (h : Unfolds before events)
    (hafter : CanBegin (lastOf id (before ++ events))) : ∀ r ∈ runsOf id events, r.2 = .failed := by
  induction h with
  | nil => simp [runsOf]
  | @run before inside other m how _ hinside ih =>
    rw [append_spanning] at hafter
    rw [runsOf_spanning]
    by_cases hother : other = id
    · subst hother
      rw [lastOf_ended] at hafter
      rw [runsOf_eq_nil hinside.inside_ne]
      cases how with
      | failed => simp
      | completed => exact hafter.elim
      | left => exact hafter.elim
    · rw [lastOf_ended_ne hother] at hafter
      simpa [hother] using ih hafter
  | append hfirst hmore ih ihmore =>
    rw [← List.append_assoc] at hafter
    intro r hr
    rw [runsOf_append] at hr
    rcases List.mem_append.1 hr with hr | hr
    · exact ih (hmore.canBegin_before hafter) r hr
    · exact ihmore hafter r hr

/-- **A body is run again only after it has failed.** -/
theorem earlier_failed (h : Unfolds before events) (id : ContextId) :
    (runsOf id events).Pairwise fun r _ => r.2 = .failed := by
  induction h with
  | nil => exact .nil
  | @run before inside other m how _ hinside ih =>
    rw [runsOf_spanning]
    by_cases hother : other = id
    · subst hother
      rw [runsOf_eq_nil hinside.inside_ne]
      simp
    · simpa [hother] using ih
  | @append before events more hfirst hmore ih ihmore =>
    rw [runsOf_append, List.pairwise_append]
    refine ⟨ih, ihmore, fun r hr later hlater => hfirst.failed_of_canBegin ?_ r hr⟩
    by_contra hid
    rw [runsOf_eq_nil (hmore.context_ne hid)] at hlater
    exact List.not_mem_nil hlater

end Unfolds

/-! ### Bodies in progress -/

/-- The contexts whose bodies run after an event, innermost first. -/
def follow (stack : List ContextId) : Event → List ContextId
  | begun id _ => id :: stack
  | ended id _ _ => stack.erase id

/-- The contexts whose bodies run inside one another after some events, innermost first. -/
def inProgress (events : List Event) : List ContextId := events.foldl follow []

namespace Unfolds

/-- When runs have ended, the bodies run that ran before. -/
theorem foldl_follow (h : Unfolds before events) (stack : List ContextId) :
    events.foldl follow stack = stack := by
  induction h generalizing stack with
  | nil => rfl
  | run m how _ _ ih => simp [spanning, follow, ih]
  | append _ _ ih ihmore => rw [List.foldl_append, ih, ihmore]

/-- On the way, the bodies that run besides are of different contexts, all of which could begin. -/
theorem exists_follow (h : Unfolds before events) (stack : List ContextId) {part : List Event}
    (hpart : part <+: events) : ∃ inner, part.foldl follow stack = inner ++ stack ∧ inner.Nodup ∧
      ∀ id ∈ inner, CanBegin (lastOf id before) ∧ ∃ m, .begun id m ∈ events := by
  induction h generalizing stack part with
  | nil =>
    obtain rfl := List.prefix_nil.1 hpart
    exact ⟨[], rfl, .nil, by simp⟩
  | @run before inside id m how hbegin hinside ih =>
    rcases List.prefix_cons_iff.1 hpart with rfl | ⟨part, rfl, hpart⟩
    · exact ⟨[], rfl, .nil, by simp⟩
    rcases List.prefix_concat_iff.1 (List.cons_prefix_cons.1 hpart).2 with rfl | hpart
    · refine ⟨[], ?_, .nil, by simp⟩
      simp [follow, hinside.foldl_follow]
    · obtain ⟨inner, hfold, hnodup, hinner⟩ := ih (id :: stack) hpart
      have hne : ∀ other ∈ inner, id ≠ other := by
        rintro other hother rfl
        have hcan := (hinner id hother).1
        rw [lastOf_begun] at hcan
        exact hcan
      refine ⟨inner ++ [id], by simpa [follow] using hfold, ?_, fun other hother => ?_⟩
      · refine List.nodup_append.2 ⟨hnodup, by simp, fun other hother last hlast => ?_⟩
        obtain rfl := List.mem_singleton.1 hlast
        exact (hne other hother).symm
      · rcases List.mem_append.1 hother with hother | hother
        · obtain ⟨hcan, n, hn⟩ := hinner other hother
          rw [lastOf_begun_ne (hne other hother)] at hcan
          exact ⟨hcan, n, by simp [spanning, hn]⟩
        · obtain rfl := List.mem_singleton.1 hother
          exact ⟨hbegin, m, by simp [spanning]⟩
  | @append before events more hfirst _ ih ihmore =>
    rcases List.prefix_or_prefix_of_prefix hpart (List.prefix_append events more) with hin | ⟨rest, rfl⟩
    · obtain ⟨inner, hfold, hnodup, hinner⟩ := ih stack hin
      refine ⟨inner, hfold, hnodup, fun id hid => ?_⟩
      obtain ⟨hcan, m, hm⟩ := hinner id hid
      exact ⟨hcan, m, List.mem_append_left _ hm⟩
    · obtain ⟨inner, hfold, hnodup, hinner⟩ :=
        ihmore stack ((List.prefix_append_right_inj events).1 hpart)
      refine ⟨inner, ?_, hnodup, fun id hid => ?_⟩
      · rw [List.foldl_append, hfirst.foldl_follow, hfold]
      · obtain ⟨hcan, m, hm⟩ := hinner id hid
        exact ⟨hfirst.canBegin_before hcan, m, List.mem_append_right _ hm⟩

end Unfolds

end Event

namespace Session

open Event

variable {s t u : Session} {id : ContextId} {c : Context} {m : ModuleId}

/-! ## Loads unfold -/

/-- Runs after and inside one another lead from one session to another, in the same contexts. -/
structure Unfolds (s t : Session) : Prop where
  length : t.contexts.length = s.contexts.length
  unfolds : ∃ events, t.history = s.history ++ events ∧ Event.Unfolds s.history events

namespace Unfolds

theorem of_history (hc : t.contexts.length = s.contexts.length) (hh : t.history = s.history) :
    Unfolds s t :=
  ⟨hc, [], by simp [hh], .nil _⟩

theorem trans (hst : Unfolds s t) (htu : Unfolds t u) : Unfolds s u := by
  obtain ⟨hc, events, hevents, hunfolds⟩ := hst
  obtain ⟨hc', more, hmore, hunfolds'⟩ := htu
  rw [hevents] at hmore hunfolds'
  exact ⟨hc'.trans hc, events ++ more, by rw [hmore, List.append_assoc], hunfolds.append hunfolds'⟩

end Unfolds

/-- A context can be run exactly if it holds no module. -/
theorem Sound.canBegin_iff (h : s.Sound) (hc : s.contexts[id]? = some c) :
    CanBegin (lastOf id s.history) ↔ c.module? = none := by
  have hafter : c.IsAfter (lastOf id s.history) := h.told id c hc
  generalize lastOf id s.history = last at hafter
  cases last with
  | none => simp [CanBegin, hafter.1]
  | some e =>
    cases e with
    | begun => simp [CanBegin, hafter.1]
    | ended _ _ how => cases how <;> simp [CanBegin, hafter.1]

/-- To keep a session sound, by runs after and inside one another. -/
def unfolding : Discipline where
  inv := Sound
  rel := Unfolds
  fails _ := True
  refl _ := .of_history rfl rfl
  trans := Unfolds.trans
  raised _ := trivial
  thrown _ _ := trivial
  own := by
    rintro s _ ⟨⟩ h
    all_goals exact ⟨h.congr rfl rfl rfl, .of_history rfl rfl⟩

/-- A run of a body is a run, and those inside it lie between its beginning and its end. -/
theorem Sound.unfolds_run {inside : List Event} (hs : s.Sound) (hc : s.contexts[id]? = some c)
    (hm : c.module? = none) (ht : t.Sound) (hinside : t.history = (s.begun id m).history ++ inside)
    (hunfolds : Event.Unfolds (s.begun id m).history inside) (how : Exit) :
    (t.ended id m how).Sound ∧
      (t.ended id m how).history = s.history ++ spanning id m how inside ∧
      Event.Unfolds s.history (spanning id m how inside) := by
  have hhistory : t.history = s.history ++ [.begun id m] ++ inside := hinside
  have hruns : t.Runs id m := by
    show lastOf id t.history = _
    rw [hhistory, lastOf_append_of_ne hunfolds.inside_ne, lastOf_begun]
  refine ⟨ht.ended hruns how, ?_, .run m how ((hs.canBegin_iff hc).2 hm) hunfolds⟩
  show t.history ++ [_] = _
  rw [append_spanning, hhistory]

theorem unfolding_hosts : unfolding.Hosts where
  quiet _ _ _ hs := ⟨hs.congr rfl rfl rfl, .of_history rfl rfl⟩
  unusable _ _ := trivial
  room _ := trivial
  ran {s s₁ t id c m body result} hs hc hm _ hnew hbody hrun := by
    obtain ⟨rfl, unit, made, rfl⟩ := Action.newUnitModule_eq_ok hnew
    have hs₁ : Sound { s with made, modules := s.modules ++ [unit] } := hs.congr rfl rfl rfl
    obtain ⟨ht, hlength, inside, hinside, hunfolds⟩ :=
      (Discipline.keeps_attempt hbody).ok (hs₁.begun hc hm s.modules.length) hrun
    obtain ⟨hended, hhistory, hran⟩ := hs₁.unfolds_run hc hm ht hinside hunfolds (.of result)
    refine ⟨hended, ?_, _, hhistory, hran⟩
    simpa [Session.begun, Session.ended] using hlength

/-- **Loads unfold into runs after and inside one another**, whatever they end with. -/
theorem Sound.load_unfolds (h : s.Sound) (id : ContextId) : ∃ result t,
    Action.attempt (Loader.engine.load id) s = .ok result t ∧ t.Sound ∧ Unfolds s t := by
  obtain ⟨result, t, hload⟩ := Action.attempt_total (Loader.engine.load id) s
  have hkeeps := Discipline.keeps_attempt (unfolding_hosts.materializes.governs.load id)
  obtain ⟨ht, hunfolds⟩ := hkeeps.ok h hload
  exact ⟨result, t, hload, ht, hunfolds⟩

/-- A load of a context whose body runs hands out the module in which it runs. -/
theorem Sound.loaderWithin_of_runs (h : s.Sound) (hr : s.Runs id m) (depth : Nat) :
    Loader.loaderWithin (depth + 1) id s = .ok m s := by
  obtain ⟨c, hc⟩ : ∃ c, s.contexts[id]? = some c :=
    ⟨_, List.getElem?_eq_getElem (h.known _ (lastEvent?_mem hr))⟩
  have hafter := h.told id c hc
  rw [hr] at hafter
  exact Loader.materialize_of_module _ hc hafter.1

/-! ## How many bodies run inside one another -/

/-- The contexts that hold no module. -/
def vacant (s : Session) : List ContextId :=
  (List.range s.contexts.length).filter fun id => (s.contexts[id]?.bind (·.module?)).isNone

theorem Sound.mem_vacant (h : s.Sound) (hid : id < s.contexts.length)
    (hcan : CanBegin (lastOf id s.history)) : id ∈ s.vacant := by
  have hc := List.getElem?_eq_getElem hid
  rw [vacant, List.mem_filter, List.mem_range, hc]
  exact ⟨hid, by simp [(h.canBegin_iff hc).1 hcan]⟩

variable {events part : List Event}

/-- A body that is started is that of a context which held no module. -/
theorem Sound.mem_vacant_of_begun (h : s.Sound) (ht : t.Sound)
    (hlength : t.contexts.length = s.contexts.length) (hh : t.history = s.history ++ events)
    (hunfolds : Event.Unfolds s.history events) (hbegun : .begun id m ∈ events) : id ∈ s.vacant := by
  refine h.mem_vacant ?_ ?_
  · rw [← hlength]
    exact ht.known (.begun id m) (by simp [hh, hbegun])
  · by_contra hid
    exact hunfolds.context_ne hid _ hbegun rfl

/-- **No more bodies run inside one another than there were contexts without a module.** -/
theorem Sound.inProgress_le (h : s.Sound) (ht : t.Sound)
    (hlength : t.contexts.length = s.contexts.length) (hh : t.history = s.history ++ events)
    (hunfolds : Event.Unfolds s.history events) (hpart : part <+: events) :
    (inProgress part).length ≤ s.vacant.length := by
  obtain ⟨inner, hfold, hnodup, hinner⟩ := hunfolds.exists_follow [] hpart
  rw [List.append_nil] at hfold
  rw [inProgress, hfold]
  refine (hnodup.subperm fun id hid => ?_).length_le
  obtain ⟨-, m, hm⟩ := hinner id hid
  exact h.mem_vacant_of_begun ht hlength hh hunfolds hm

/-! ## Loads that run every body once -/

/-- What loads are meant to do: every body is started at most once; if the load succeeds, all bodies that
were started have made their contexts ready, and if it fails with an exception, each has done so or its
context holds no module. -/
structure LoadsOnce (events : List Event) (result : Except Failure ModuleId) (t : Session) : Prop where
  once : ∀ id, starts id events ≤ 1
  returned : ∀ m, result = .ok m → ∀ id, 0 < starts id events →
    ∃ c, t.contexts[id]? = some c ∧ c.ready = true
  raised : ∀ f, result = .error f → f.isOrdinary → ∀ id, 0 < starts id events →
    ∃ c, t.contexts[id]? = some c ∧ (c.ready = true ∨ c.module? = none)

/-- A load passes over the failure of a body: the body is run once more, or the load succeeds all the
same, or it fails with an exception although a body has asked to leave the program. -/
inductive PassesOver (events : List Event) : Except Failure ModuleId → Prop where
  | again {result : Except Failure ModuleId} (id : ContextId) (first later : ModuleId × Exit)
    (hruns : [first, later].Sublist (runsOf id events)) (hfirst : first.2 = .failed) :
    PassesOver events result
  | returned {m : ModuleId} (id : ContextId) (n : ModuleId) (how : Exit)
    (hended : .ended id n how ∈ events) (hhow : how ≠ .completed) : PassesOver events (.ok m)
  | raised {f : Failure} (id : ContextId) (n : ModuleId) (hf : f.isOrdinary)
    (hended : .ended id n .left ∈ events) : PassesOver events (.error f)

/-- Runs of which none is followed by another are one at most. -/
theorem length_le_one_iff {runs : List (ModuleId × Exit)}
    (h : runs.Pairwise fun r _ => r.2 = .failed) :
    runs.length ≤ 1 ↔ ∀ first later, [first, later].Sublist runs → first.2 ≠ .failed := by
  constructor
  · intro hle first later hsub
    exact absurd (Nat.le_trans hsub.length_le hle) (by simp)
  · intro hnone
    match runs, h with
    | [], _ => simp
    | [_], _ => simp
    | first :: later :: rest, h =>
      have hfailed := List.rel_of_pairwise_cons h (List.mem_cons_self)
      exact absurd hfailed (hnone first later (by simp))

/-- What a body that was started once has made of its context. -/
theorem Sound.exists_isAfter (ht : t.Sound) (hh : t.history = s.history ++ events)
    (hunfolds : Event.Unfolds s.history events) (hstarts : 0 < starts id events) :
    ∃ r c, r ∈ runsOf id events ∧ (runsOf id events).getLast? = some r ∧
      t.contexts[id]? = some c ∧ c.IsAfter (some (.ended id r.1 r.2)) := by
  rw [hunfolds.starts_eq] at hstarts
  obtain ⟨r, hr⟩ : ∃ r, (runsOf id events).getLast? = some r :=
    ⟨_, List.getLast?_eq_some_getLast (List.length_pos_iff.1 hstarts)⟩
  have hmem := List.mem_of_getLast? hr
  have hended : .ended id r.1 r.2 ∈ t.history := by
    rw [hh]
    exact List.mem_append_right _ (mem_runsOf.1 hmem)
  obtain ⟨c, hc⟩ : ∃ c, t.contexts[id]? = some c :=
    ⟨_, List.getElem?_eq_getElem (ht.known _ hended)⟩
  have hlast : t.lastEvent? id = some (.ended id r.1 r.2) := by
    show lastOf id t.history = _
    rw [hh, hunfolds.lastOf_eq, hr]
    rfl
  exact ⟨r, c, hmem, hr, hc, hlast ▸ ht.told id c hc⟩

theorem eq_of_length_le_one {α : Type} {l : List α} (hle : l.length ≤ 1) {a b : α} (ha : a ∈ l)
    (hb : b ∈ l) : a = b := by
  match l, hle, ha, hb with
  | [one], _, ha, hb => rw [List.mem_singleton.1 ha, List.mem_singleton.1 hb]

/-- A load that passes over a failure does not do what loads are meant to do. -/
theorem Sound.not_passesOver (ht : t.Sound) (hh : t.history = s.history ++ events)
    (hunfolds : Event.Unfolds s.history events) {result : Except Failure ModuleId}
    (hload : LoadsOnce events result t) : ¬ PassesOver events result := by
  have hle (id : ContextId) : (runsOf id events).length ≤ 1 := hunfolds.starts_eq id ▸ hload.once id
  -- the only run of a body that has ended is the one that its context remembers
  have hafter (id : ContextId) (n : ModuleId) (how : Exit) (hended : .ended id n how ∈ events) :
      0 < starts id events ∧ ∀ c, t.contexts[id]? = some c → c.IsAfter (some (.ended id n how)) := by
    have hmem := mem_runsOf.2 hended
    have hstarts : 0 < starts id events := by
      rw [hunfolds.starts_eq]
      exact List.length_pos_of_mem hmem
    obtain ⟨r, c, hr, -, hc, hafter⟩ := ht.exists_isAfter hh hunfolds hstarts
    obtain rfl := eq_of_length_le_one (hle id) hr hmem
    refine ⟨hstarts, fun c' hc' => ?_⟩
    obtain rfl := Option.some.inj (hc.symm.trans hc')
    exact hafter
  rintro (⟨id, first, later, hruns, hfirst⟩ | ⟨id, n, how, hended, hhow⟩ | ⟨id, n, hf, hended⟩)
  · exact (length_le_one_iff (hunfolds.earlier_failed id)).1 (hle id) first later hruns hfirst
  · obtain ⟨hstarts, hc⟩ := hafter id n how hended
    obtain ⟨c, hget, hready⟩ := hload.returned _ rfl id hstarts
    have hend := hc c hget
    cases how with
    | completed => exact hhow rfl
    | failed => exact absurd (hready.symm.trans hend.2) (by simp)
    | left => exact absurd (hready.symm.trans hend.2) (by simp)
  · obtain ⟨hstarts, hc⟩ := hafter id n .left hended
    obtain ⟨c, hget, hready | hnone⟩ := hload.raised _ rfl hf id hstarts
    · exact absurd (hready.symm.trans (hc c hget).2) (by simp)
    · exact absurd (hnone.symm.trans (hc c hget).1) (by simp)

/-- A load that passes over no failure does what loads are meant to do. -/
theorem Sound.loadsOnce (ht : t.Sound) (hh : t.history = s.history ++ events)
    (hunfolds : Event.Unfolds s.history events) {result : Except Failure ModuleId}
    (hpasses : ¬ PassesOver events result) : LoadsOnce events result t where
  once id := by
    rw [hunfolds.starts_eq]
    refine (length_le_one_iff (hunfolds.earlier_failed id)).2 fun first later hruns hfirst => ?_
    exact hpasses (.again id first later hruns hfirst)
  returned m hm id hstarts := by
    subst hm
    obtain ⟨⟨n, how⟩, c, hr, -, hc, hafter⟩ := ht.exists_isAfter hh hunfolds hstarts
    obtain rfl : how = .completed := by
      by_contra hhow
      exact hpasses (.returned id n how (mem_runsOf.1 hr) hhow)
    exact ⟨c, hc, hafter.2⟩
  raised f hf hordinary id hstarts := by
    subst hf
    obtain ⟨⟨n, how⟩, c, hr, -, hc, hafter⟩ := ht.exists_isAfter hh hunfolds hstarts
    refine ⟨c, hc, ?_⟩
    cases how with
    | completed => exact .inl hafter.2
    | failed => exact .inr hafter.1
    | left => exact absurd (.raised id n hordinary (mem_runsOf.1 hr)) hpasses

/-- **What a load does.** Of a context whose body runs, it hands out the module in which it runs, so no
more bodies run inside one another than there were contexts without a module. Only such contexts are
run, and again only after they have failed. Every body is started at most once and ends as the load does,
exactly if the load passes over no failure. -/
theorem Reachable.loadsOnce_iff (h : s.Reachable) (id : ContextId) :
    (∀ depth (u : Session) other m, u.Sound → u.Runs other m →
      Loader.loaderWithin (depth + 1) other u = .ok m u) ∧
    ∃ result t events, Action.attempt (Loader.engine.load id) s = .ok result t ∧
      t.history = s.history ++ events ∧
      (∀ part, part <+: events → (inProgress part).length ≤ s.vacant.length) ∧
      (∀ other, starts other events = (runsOf other events).length ∧
        ((runsOf other events).Pairwise fun r _ => r.2 = .failed) ∧
        ∀ m, .begun other m ∈ events → other ∈ s.vacant) ∧
      (LoadsOnce events result t ↔ ¬ PassesOver events result) := by
  refine ⟨fun depth u other m hu hr => hu.loaderWithin_of_runs hr depth, ?_⟩
  obtain ⟨result, t, hload, ht, hlength, events, hh, hunfolds⟩ := h.sound.load_unfolds id
  refine ⟨result, t, events, hload, hh, fun part hpart => ?_, fun other => ⟨?_, ?_, fun m hm => ?_⟩,
    ht.not_passesOver hh hunfolds, ht.loadsOnce hh hunfolds⟩
  · exact h.sound.inProgress_le ht hlength hh hunfolds hpart
  · exact hunfolds.starts_eq other
  · exact hunfolds.earlier_failed other
  · exact h.sound.mem_vacant_of_begun ht hlength hh hunfolds hm

/-! ## A failure whose wording loads -/

/-- Two units that import each other. -/
def importing : Session :=
  holdingUnits [("p.A_ts1", "import p.B as b\n"), ("p.B_ts1", "import p.A as a\n")]

theorem importing_loadsOnce_iff : importing.Reachable ∧ ∃ result t events,
    Action.attempt (Loader.engine.load 0) importing = .ok result t ∧
      t.history = importing.history ++ events ∧
      (LoadsOnce events result t ↔ ¬ PassesOver events result) := by
  have hreachable : importing.Reachable := holdingUnits_reachable _
  obtain ⟨-, result, t, events, hload, hh, -, -, hiff⟩ := Reachable.loadsOnce_iff hreachable 0
  exact ⟨hreachable, result, t, events, hload, hh, hiff⟩

/-- A source that fails on its first run, with an exception that it words itself. The wording loads the
unit again. -/
def wordingSource : String :=
  "import p.N as n\n" ++ "n.runs.append(1)\n" ++
  "class C:\n" ++ "    def __str__(self):\n" ++ "        import p.B\n" ++ "        return 'c'\n" ++
  "if n.runs == [1]:\n" ++ "    raise Exception(C())\n"

/-- A unit with this source, and one that counts its runs. -/
def wording : Session := holdingUnits [("p.N_ts1", "runs = []\n"), ("p.B_ts1", wordingSource)]

/-- The events of a load from outside, if it ends with an error. -/
def eventsIfRefused (id : ContextId) (s : Session) : Option (List Event) :=
  match Loader.engine.load id s with
  | .error (.error _) t => some (t.history.drop s.history.length)
  | _ => none

theorem exists_of_eventsIfRefused (h : eventsIfRefused id s = some events) :
    ∃ e t, Action.attempt (Loader.engine.load id) s = .ok (.error (.error e)) t ∧
      t.history.drop s.history.length = events := by
  unfold eventsIfRefused at h
  split at h
  · rename_i e t hrefused
    exact ⟨e, t, Action.attempt_error hrefused, Option.some.inj h⟩
  · cases h

theorem wording_events : eventsIfRefused 1 wording = some [.begun 1 0, .begun 0 1,
    .ended 0 1 .completed, .ended 1 0 .failed, .begun 1 2, .ended 1 2 .completed] := by
  decide +kernel

/-- The load starts the body twice, and ends with an error although the context is ready. -/
theorem wording_starts : wording.Reachable ∧ ∃ e t events,
    Action.attempt (Loader.engine.load 1) wording = .ok (.error (.error e)) t ∧
      t.history = wording.history ++ events ∧ starts 1 events = 2 ∧
      ¬ LoadsOnce events (.error (.error e)) t := by
  have hreachable : wording.Reachable := holdingUnits_reachable _
  obtain ⟨e, t, hrefused, hevents⟩ := exists_of_eventsIfRefused wording_events
  obtain ⟨result, u, hload, -, -, events, hh, -⟩ := hreachable.sound.load_unfolds 1
  obtain ⟨rfl, rfl⟩ := EStateM.Result.ok.inj (hrefused.symm.trans hload)
  rw [hh, List.drop_left] at hevents
  have hstarts : starts 1 events = 2 := by
    rw [hevents]
    rfl
  refine ⟨hreachable, e, t, events, hload, hh, hstarts, fun honce => ?_⟩
  exact absurd (hstarts ▸ honce.once 1) (by decide)

end Session

end UnitFoundry
