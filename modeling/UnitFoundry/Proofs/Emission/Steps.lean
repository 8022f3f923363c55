import UnitFoundry.Emission
import UnitFoundry.Proofs.Entries
import UnitFoundry.Proofs.Operations

/-!
# What was done to a store of artifacts

Scopes and writers are opened, writers are written to, closed or dropped, and the registry is cleared,
in any order. A step that is refused leaves everything as it is. What the others come to can be said
without looking at any state: which writers were opened, what was written to each, and in which order
they were closed.

* `Step`, `run` — the steps, and a run of them with a list of those that were done;
* `openings`, `written`, `closings` — what was opened, written and closed;
* `published` — the writers closed since the registry was last cleared;
* `generations`, `emissions` — their contexts by canonical name, and those of a scope by qualified name.
-/

namespace UnitFoundry.Emission

open Script Text

/-- A step on a store of artifacts. -/
inductive Step where
  | openScope
  | openOutput (scope : Option ScopeId) (location : Location) (name : String)
      (sibling : Option File)
  | write (id : WriterId) (data : Bytes)
  | close (id : WriterId)
  /-- A writer is given up. It stays as it is. -/
  | drop (id : WriterId)
  | clear

namespace Step

/-- What a step does. Writers can be opened only through scopes that are there. -/
def perform : Step → Action Unit
  | openScope => do
    let _ ← Emission.openScope
  | openOutput scope location name sibling => do
    let s ← get
    if scope.all (· < s.scopes.length) then
      let _ ← Emission.openOutput scope location name .artifact sibling
    else Action.exception "LookupError" "no such scope"
  | write id data => do
    let _ ← Emission.write id data
  | close id => Emission.close id
  | drop _ => pure ()
  | clear => Action.clearRegistry

/-- The name and the scope that a step opens a writer for. -/
def opening? : Step → Option (String × Option ScopeId)
  | openOutput scope _ name _ => some (name, scope)
  | _ => none

/-- The bytes that a step writes to a writer. -/
def bytesTo (id : WriterId) : Step → Bytes
  | write other data => if other = id then data else []
  | _ => []

/-- The writer that a step closes. -/
def closing? : Step → Option WriterId
  | close id => some id
  | _ => none

/-- Whether a step opens a scope. -/
def isScope : Step → Bool
  | openScope => true
  | _ => false

/-- Whether a step clears the registry. -/
def isClear : Step → Bool
  | clear => true
  | _ => false

end Step

/-- Steps one after the other: those that were done, and the session they lead to. -/
def run : List Step → Session → List Step × Session
  | [], s => ([], s)
  | step :: rest, s =>
    match step.perform s with
    | .ok _ t => (step :: (run rest t).1, (run rest t).2)
    | .error _ t => run rest t

/-! ## What was done -/

/-- The writers that were opened, in order: for which name, and through which scope. -/
def openings (done : List Step) : List (String × Option ScopeId) := done.filterMap Step.opening?

/-- All that was written to a writer. -/
def written (id : WriterId) (done : List Step) : Bytes := done.flatMap (Step.bytesTo id)

/-- The writers that were closed, in the order in which they were closed first. -/
def closings (done : List Step) : List WriterId := (done.filterMap Step.closing?).eraseDups

/-- What was done up to the last time that the registry was cleared. -/
def untilClear (done : List Step) : List Step := (done.reverse.dropWhile (!·.isClear)).reverse

/-- The writers closed since the registry was last cleared, in order. -/
def published (done : List Step) : List WriterId :=
  (closings done).filter (· ∉ closings (untilClear done))

/-- The contexts published since the registry was last cleared, each with its canonical name. -/
def generations (done : List Step) : List (String × ContextId) :=
  (published done).filterMap fun id =>
    (openings done)[id]?.map fun (name, _) => (UnitName.canonical name, id)

/-- The contexts published through a scope, each with its qualified name. -/
def emissions (scope : ScopeId) (done : List Step) : List (String × ContextId) :=
  (closings done).filterMap fun id =>
    (openings done)[id]?.bind fun (name, through) =>
      if through = some scope then some (name, id) else none

/-! ## One more step -/

variable {done : List Step} {step : Step} {id : WriterId}

theorem openings_concat : openings (done ++ [step]) = openings done ++ step.opening?.toList := by
  rw [openings, List.filterMap_append]
  cases h : step.opening? with
  | none => simp [openings, h]
  | some o => simp [openings, h]

theorem countP_concat : (done ++ [step]).countP Step.isScope =
    done.countP Step.isScope + if step.isScope then 1 else 0 := by
  rw [List.countP_append, List.countP_singleton]

theorem written_concat : written id (done ++ [step]) = written id done ++ step.bytesTo id := by
  simp [written]

theorem mem_closings_concat :
    id ∈ closings (done ++ [step]) ↔ id ∈ closings done ∨ step.closing? = some id := by
  simp [closings, List.mem_eraseDups]

theorem closings_concat_of_none (h : step.closing? = none) :
    closings (done ++ [step]) = closings done := by
  simp [closings, h]

theorem closings_concat_close :
    closings (done ++ [.close id]) =
      if id ∈ closings done then closings done else closings done ++ [id] := by
  have hclose : (done ++ [Step.close id]).filterMap Step.closing? =
      done.filterMap Step.closing? ++ [id] := by simp [Step.closing?]
  rw [closings, hclose, eraseDups_concat]
  simp only [closings, List.mem_eraseDups]

theorem untilClear_concat :
    untilClear (done ++ [step]) = if step.isClear then done ++ [step] else untilClear done := by
  by_cases h : step.isClear
  · simp [untilClear, h]
  · simp [untilClear, h]

/-- What was closed before the registry was last cleared was closed. -/
theorem mem_closings_of_untilClear (h : id ∈ closings (untilClear done)) : id ∈ closings done := by
  unfold closings at h ⊢
  rw [List.mem_eraseDups, List.mem_filterMap] at h ⊢
  obtain ⟨step, hstep, hclose⟩ := h
  refine ⟨step, ?_, hclose⟩
  have hmem := List.mem_reverse.1 hstep
  exact List.mem_reverse.1 ((List.dropWhile_sublist _).subset hmem)

theorem published_concat_of_none (h : step.closing? = none) (hclear : step.isClear = false) :
    published (done ++ [step]) = published done := by
  rw [published, closings_concat_of_none h, untilClear_concat, if_neg (by simp [hclear])]
  rfl

theorem published_concat_clear : published (done ++ [.clear]) = [] := by
  have hclear : untilClear (done ++ [Step.clear]) = done ++ [Step.clear] := by
    rw [untilClear_concat, if_pos (by rfl)]
  rw [published, hclear, List.filter_eq_nil_iff]
  simp

theorem published_concat_close :
    published (done ++ [.close id]) =
      if id ∈ closings done then published done else published done ++ [id] := by
  rw [published, closings_concat_close, untilClear_concat, if_neg (by simp [Step.isClear])]
  by_cases h : id ∈ closings done
  · rw [if_pos h, if_pos h]
    rfl
  · have hbefore : id ∉ closings (untilClear done) := fun hid => h (mem_closings_of_untilClear hid)
    rw [if_neg h, if_neg h, List.filter_append]
    simp [published, hbefore]

theorem mem_closings_of_published (h : id ∈ published done) : id ∈ closings done :=
  (List.mem_filter.1 h).1

theorem mem_generations {key : String} :
    (key, id) ∈ generations done ↔ id ∈ published done ∧
      ∃ name scope, (openings done)[id]? = some (name, scope) ∧ key = UnitName.canonical name := by
  rw [generations, List.mem_filterMap]
  constructor
  · rintro ⟨other, hother, h⟩
    obtain ⟨⟨name, scope⟩, ho, heq⟩ := Option.map_eq_some_iff.1 h
    obtain ⟨rfl, rfl⟩ := Prod.mk.inj heq
    exact ⟨hother, name, scope, ho, rfl⟩
  · rintro ⟨hid, name, scope, ho, rfl⟩
    exact ⟨id, hid, by rw [ho]; rfl⟩

theorem closed_of_emissions {scope : ScopeId} {name : String} (h : (name, id) ∈ emissions scope done) :
    id ∈ closings done := by
  obtain ⟨other, hother, h⟩ := List.mem_filterMap.1 h
  obtain ⟨⟨first, through⟩, -, h⟩ := Option.bind_eq_some_iff.1 h
  dsimp only at h
  split at h
  · obtain ⟨-, rfl⟩ := Prod.mk.inj (Option.some.inj h)
    exact hother
  · cases h

/-- All writers that were closed were opened before. -/
def AreKnown (done : List Step) : Prop := ∀ id ∈ closings done, id < (openings done).length

/-- Only writers that are there are closed. -/
theorem AreKnown.concat (h : AreKnown done) (step : Step)
    (hclosing : ∀ id, step.closing? = some id → id < (openings done).length) :
    AreKnown (done ++ [step]) := by
  intro id hid
  rw [openings_concat, List.length_append]
  rcases mem_closings_concat.1 hid with hbefore | hnow
  · exact Nat.lt_add_right _ (h id hbefore)
  · exact Nat.lt_add_right _ (hclosing id hnow)

/-- An opening is the same later on. -/
theorem opening_concat (step : Step) (h : id < (openings done).length) :
    (openings (done ++ [step]))[id]? = (openings done)[id]? := by
  rw [openings_concat, List.getElem?_append_left h]

theorem generations_concat_of_none (hknown : AreKnown done) (h : step.closing? = none)
    (hclear : step.isClear = false) : generations (done ++ [step]) = generations done := by
  rw [generations, published_concat_of_none h hclear]
  refine List.filterMap_congr fun id hid => ?_
  rw [opening_concat step (hknown id (mem_closings_of_published hid))]

theorem emissions_concat_of_none (scope : ScopeId) (hknown : AreKnown done)
    (h : step.closing? = none) : emissions scope (done ++ [step]) = emissions scope done := by
  rw [emissions, closings_concat_of_none h]
  refine List.filterMap_congr fun id hid => ?_
  rw [opening_concat step (hknown id hid)]

/-- Nothing was published through a scope that no writer was opened through. -/
theorem emissions_eq_nil {scope : ScopeId} (h : ∀ o ∈ openings done, o.2 ≠ some scope) :
    emissions scope done = [] := by
  rw [emissions, List.filterMap_eq_nil_iff]
  intro id _
  cases ho : (openings done)[id]? with
  | none => rfl
  | some o => exact if_neg (h o (List.mem_of_getElem? ho))

theorem openings_concat_close : openings (done ++ [.close id]) = openings done := by
  simp [openings_concat, Step.opening?]

/-- The context of a writer that is closed for the first time is the newest of its name. -/
theorem generations_concat_close {name : String} {scope : Option ScopeId}
    (hid : (openings done)[id]? = some (name, scope)) (hopen : id ∉ closings done) :
    generations (done ++ [.close id]) = generations done ++ [(UnitName.canonical name, id)] := by
  rw [generations, published_concat_close, if_neg hopen, openings_concat_close,
    List.filterMap_append]
  simp [generations, hid]

theorem emissions_concat_close {name : String} {scope : Option ScopeId} (through : ScopeId)
    (hid : (openings done)[id]? = some (name, scope)) (hopen : id ∉ closings done) :
    emissions through (done ++ [.close id]) =
      if scope = some through then emissions through done ++ [(name, id)]
      else emissions through done := by
  rw [emissions, closings_concat_close, if_neg hopen, openings_concat_close, List.filterMap_append]
  by_cases hscope : scope = some through
  · simp [emissions, hid, hscope]
  · simp [emissions, hid, hscope]

/-- A writer that was closed before is not closed again. -/
theorem generations_concat_closed (h : id ∈ closings done) :
    generations (done ++ [.close id]) = generations done := by
  rw [generations, published_concat_close, if_pos h, openings_concat_close]
  rfl

theorem emissions_concat_closed (scope : ScopeId) (h : id ∈ closings done) :
    emissions scope (done ++ [.close id]) = emissions scope done := by
  rw [emissions, closings_concat_close, if_pos h, openings_concat_close]
  rfl

end UnitFoundry.Emission
