import UnitFoundry.Session
import Mathlib.Tactic.Common

/-!
# Operations step by step

What an operation on the session comes to, given the session it starts in. The steps that everything
is put together from are said once here; larger operations are then followed by rewriting.

* `bind_ok`, `bind_error` — one operation after another;
* `attempt_ok`, `attempt_error` — an operation whose failure is a value;
* `context_some`, `module_some`, `object_some` and their kind — parts of the session that are there
  or not;
* `SideStore.take`, `saveCopy_of_take` — what a side store makes of a copy, and what the save comes to.
-/

namespace UnitFoundry

open Script Text

/-- What a side store makes of a copy: the store and the disk afterwards, and the reason if it refused. -/
def SideStore.take (name : String) (data : Bytes) (disk : Disk) : SideStore → SideStore × Disk × Option Raised
  | absent => (absent, disk, none)
  | memory refuses attempts saved =>
    match refuses attempts with
    | some why => (memory refuses (attempts + 1) saved, disk, some why)
    | none => (memory refuses (attempts + 1) (saved ++ [(name, data)]), disk, none)
  | durable store => (durable store, store.save disk name data)

/-- A refusal is logged, unless it is a way of leaving the program. -/
def SideStore.verdict : Option Raised → Except Failure Unit
  | none => .ok ()
  | some why => if why.isOrdinary then .ok () else .error (.raised why)

namespace Action

variable {α β : Type} {s t : Session} {f : Failure}

/-! ## Putting operations together -/

theorem bind_ok {x : Action α} {next : α → Action β} {a : α} (h : x s = .ok a t) :
    (x >>= next) s = next a t := by
  simp [Bind.bind, EStateM.bind, h]

theorem bind_error {x : Action α} {next : α → Action β} (h : x s = .error f t) :
    (x >>= next) s = .error f t := by
  simp [Bind.bind, EStateM.bind, h]

/-- What an operation goes on as, it goes on as before another one, too. -/
theorem bind_congr {x rest : Action α} (h : x s = rest t) (next : α → Action β) :
    (x >>= next) s = (rest >>= next) t := by
  simp [Bind.bind, EStateM.bind, h]

/-- What an operation after another ends with, one of the two has ended with. -/
theorem bind_eq_ok {x : Action α} {next : α → Action β} {b : β} {u : Session} :
    (x >>= next) s = .ok b u ↔ ∃ a t, x s = .ok a t ∧ next a t = .ok b u := by
  cases h : x s with
  | ok a t => simp [bind_ok h]
  | error e t => simp [bind_error h]

theorem bind_eq_error {x : Action α} {next : α → Action β} {u : Session} :
    (x >>= next) s = .error f u ↔
      x s = .error f u ∨ ∃ a t, x s = .ok a t ∧ next a t = .error f u := by
  cases h : x s with
  | ok a t => simp [bind_ok h]
  | error e t => simp [bind_error h]

/-- What a run gives is what the operation ends with. -/
theorem exists_of_run {σ ε : Type} {act : EStateM ε σ α} {s : σ} {a : α} (h : act.run' s = some a) :
    ∃ t, act s = .ok a t := by
  unfold EStateM.run' at h
  split at h
  · rename_i b t hb
    cases h
    exact ⟨t, hb⟩
  · cases h

/-- What an operation ends with is all that a run depends on. -/
theorem run_congr {σ ε : Type} {x y : EStateM ε σ α} {s t : σ} (h : x s = y t) : x.run' s = y.run' t := by
  unfold EStateM.run' EStateM.run
  rw [h]

@[simp]
theorem pure_apply (a : α) (s : Session) : (pure a : Action α) s = .ok a s := rfl

@[simp]
theorem throw_apply (f : Failure) (s : Session) : (throw f : Action α) s = .error f s := rfl

@[simp]
theorem exception_apply (kind message : String) (s : Session) :
    (exception kind message : Action α) s = .error (.exception kind message) s := rfl

@[simp]
theorem get_apply (s : Session) : (get : Action Session) s = .ok s s := rfl

@[simp]
theorem set_apply (s t : Session) : (set t : Action PUnit) s = .ok ⟨⟩ t := rfl

@[simp]
theorem modify_apply (change : Session → Session) (s : Session) :
    (modify change : Action PUnit) s = .ok ⟨⟩ (change s) := rfl

@[simp]
theorem ofExcept_ok (a : α) (s : Session) :
    (ofExcept (.ok a : Except Failure α) : Action α) s = .ok a s :=
  rfl

@[simp]
theorem ofExcept_error (f : Failure) (s : Session) :
    (ofExcept (.error f : Except Failure α) : Action α) s = .error f s := rfl

theorem ofExcept_eq_ok {e : Except Failure α} {a : α} :
    (ofExcept e : Action α) s = .ok a t ↔ e = .ok a ∧ t = s := by
  cases e <;> simp [eq_comm]

/-! ## Attempts -/

theorem attempt_ok {act : Action α} {a : α} (h : act s = .ok a t) :
    attempt act s = .ok (.ok a) t := by
  simp [attempt, h]

theorem attempt_error {act : Action α} (h : act s = .error f t) :
    attempt act s = .ok (.error f) t := by
  simp [attempt, h]

/-- An attempt always ends with a value. -/
theorem attempt_total (act : Action α) (s : Session) : ∃ r t, attempt act s = .ok r t := by
  cases h : act s with
  | ok a t => exact ⟨_, t, attempt_ok h⟩
  | error f t => exact ⟨_, t, attempt_error h⟩

/-! ## Parts of the session -/

theorem context_some {id : ContextId} {c : Context} (h : s.contexts[id]? = some c) :
    context id s = .ok c s := by
  simp [context, bind_ok (get_apply s), h]

theorem context_none {id : ContextId} (h : s.contexts[id]? = none) :
    context id s = .error (.exception "LookupError" "no such context") s := by
  simp [context, bind_ok (get_apply s), h]

theorem module_some {id : ModuleId} {m : UnitModule} (h : s.modules[id]? = some m) :
    module id s = .ok m s := by
  simp [module, bind_ok (get_apply s), h]

theorem module_none {id : ModuleId} (h : s.modules[id]? = none) :
    module id s = .error (.exception "LookupError" "no such module") s := by
  simp [module, bind_ok (get_apply s), h]

theorem object_some {id : ObjectId} {o : Object} (h : s.objects[id]? = some o) :
    object id s = .ok o s := by
  simp [object, bind_ok (get_apply s), h]

theorem object_none {id : ObjectId} (h : s.objects[id]? = none) :
    object id s = .error (.exception "LookupError" "no such object") s := by
  simp [object, bind_ok (get_apply s), h]

@[simp]
theorem find_apply (name : String) (s : Session) : find name s = .ok (s.registry.find? name) s := rfl

@[simp]
theorem lookup_apply (canonical : String) (s : Session) :
    lookup canonical s = .ok (s.registry.lookup? canonical) s := rfl

@[simp]
theorem newModule_apply (m : UnitModule) (s : Session) :
    newModule m s = .ok s.modules.length { s with modules := s.modules ++ [m] } := rfl

@[simp]
theorem beginRun_apply (id : ContextId) (m : ModuleId) (s : Session) :
    beginRun id m s = .ok ⟨⟩ (s.begun id m) := rfl

@[simp]
theorem endRun_apply (id : ContextId) (m : ModuleId) (how : Exit) (s : Session) :
    endRun id m how s = .ok ⟨⟩ (s.ended id m how) := rfl

@[simp]
theorem logged_apply (severity : Severity) (channel : Channel) (text : String) (s : Session) :
    logged severity channel text s =
      .ok ⟨⟩ { s with log := record s.level s.log { severity, channel, text } } := rfl

/-- The making of a text counts at most one thing made. -/
theorem newText_apply (text : String) (s : Session) :
    ∃ value made, newText text s = .ok value { s with made } := by
  unfold newText
  split
  · exact ⟨_, s.made, rfl⟩
  · exact ⟨_, s.made + 1, rfl⟩

/-- A new module for a context is one more module. -/
theorem newUnitModule_apply (owner : ContextId) (c : Context) (s : Session) :
    ∃ m made, newUnitModule owner c s =
      .ok s.modules.length { s with made, modules := s.modules ++ [m] } := by
  obtain ⟨name, n, hname⟩ := newText_apply c.qualified s
  obtain ⟨package, k, hpackage⟩ := newText_apply (UnitName.package c.qualified) { s with made := n }
  obtain ⟨file, l, hfile⟩ := newText_apply c.artifact.uri { s with made := k }
  refine ⟨UnitModule.fresh owner name package file, l, ?_⟩
  unfold newUnitModule
  rw [bind_ok hname, bind_ok hpackage, bind_ok hfile]
  rfl

theorem newUnitModule_eq_ok {owner : ContextId} {c : Context} {id : ModuleId}
    (h : newUnitModule owner c s = .ok id t) :
    id = s.modules.length ∧ ∃ m made, t = { s with made, modules := s.modules ++ [m] } := by
  obtain ⟨m, made, hnew⟩ := newUnitModule_apply owner c s
  cases hnew.symm.trans h
  exact ⟨rfl, m, made, rfl⟩

/-! ## Saves -/

/-- What a save comes to. -/
theorem saveCopy_of_take {name : String} {data : Bytes} {sideStore : SideStore} {disk : Disk}
    {refusal : Option Raised} (h : s.sideStore.take name data s.disk = (sideStore, disk, refusal)) :
    ∃ log, saveCopy name data s =
      (ofExcept (SideStore.verdict refusal) : Action Unit) { s with sideStore, disk, log } := by
  -- what follows a refusal, in the session that it has left behind
  have hrefused (why : Raised) (u : Session) : ∃ log, (if why.isOrdinary then
      logged .warning .loading ("Could not save artifact '" ++ name ++ "': " ++ why.message)
      else throw (.raised why) : Action Unit) u =
        (ofExcept (SideStore.verdict (some why)) : Action Unit) { u with log } := by
    rw [SideStore.verdict]
    cases why.isOrdinary with
    | true => exact ⟨_, logged_apply ..⟩
    | false => exact ⟨u.log, rfl⟩
  rw [saveCopy, bind_ok (get_apply s)]
  cases hside : s.sideStore with
  | absent =>
    rw [hside] at h
    cases h
    have hsame : { s with sideStore := .absent } = s := by rw [← hside]
    exact ⟨s.log, congrArg (EStateM.Result.ok PUnit.unit) hsame.symm⟩
  | memory refuses attempts saved =>
    rw [hside, SideStore.take] at h
    cases hr : refuses attempts with
    | none =>
      rw [hr] at h
      cases h
      simp only [hr]
      exact ⟨s.log, rfl⟩
    | some why =>
      rw [hr] at h
      cases h
      simp only [hr]
      exact hrefused why { s with sideStore := .memory refuses (attempts + 1) saved }
  | durable store =>
    rw [hside, SideStore.take] at h
    rcases hsave : store.save s.disk name data with ⟨tree, outcome⟩
    rw [hsave] at h
    cases h
    simp only [hsave]
    cases refusal with
    | none => exact ⟨_, rfl⟩
    | some why => exact hrefused why { s with sideStore := .durable store, disk }

/-- Saving a copy changes the side store, what lies on the disk and the log. It fails only by a refusal
that is a way of leaving the program: others are logged. -/
theorem saveCopy_apply (name : String) (data : Bytes) (s : Session) :
    ∃ sideStore disk log, saveCopy name data s = .ok ⟨⟩ { s with sideStore, disk, log } ∨
      ∃ why, why.isOrdinary = false ∧
        saveCopy name data s = .error (.raised why) { s with sideStore, disk, log } := by
  rcases htake : s.sideStore.take name data s.disk with ⟨sideStore, disk, refusal⟩
  obtain ⟨log, hsave⟩ := saveCopy_of_take htake
  refine ⟨sideStore, disk, log, ?_⟩
  cases refusal with
  | none => exact .inl hsave
  | some why =>
    rw [SideStore.verdict] at hsave
    cases hordinary : why.isOrdinary with
    | true =>
      rw [hordinary] at hsave
      exact .inl hsave
    | false =>
      rw [hordinary] at hsave
      exact .inr ⟨why, hordinary, hsave⟩

/-- So a copy may be saved or refused, but nothing else is different afterwards. -/
theorem attempt_saveCopy {name : String} {data : Bytes} {result : Except Failure PUnit}
    (h : attempt (saveCopy name data) s = .ok result t) :
    ∃ sideStore disk log, t = { s with sideStore, disk, log } := by
  obtain ⟨sideStore, disk, log, hsaved | ⟨why, -, hsaved⟩⟩ := saveCopy_apply name data s
  · cases (attempt_ok hsaved).symm.trans h
    exact ⟨sideStore, disk, log, rfl⟩
  · cases (attempt_error hsaved).symm.trans h
    exact ⟨sideStore, disk, log, rfl⟩

end Action

end UnitFoundry
