import UnitFoundry.Proofs.Loader.Making

/-!
# Failures of loads that say nothing of artifacts

A load of a unit whose artifact is finished hands out a module, or ends with the error that says that the
artifact cannot be made one. There are four ways round this. Two belong to whoever asks to leave the program:
the side store, while a copy is saved, and the body. The other two are gaps. A payload may be refused by an
exception that does not count as corruption, and the words for the failure of a body may fail themselves,
since they are the body's own.

* `BodyEnds` — a load from outside runs the body of the unit to an end;
* `Escapes` — the ways round;
* `escapes_of_load` — **a load of a finished artifact ends with another failure only by one of them**.
-/

namespace UnitFoundry.Loader

open Script Text

/-- A load from outside runs the body of a unit, which ends with a result and leaves a session behind. -/
inductive BodyEnds (s : Session) (id : ContextId) : Except Failure Unit → Session → Prop where
  | intro {c : Context} {data : Bytes} {code : Code} {m : ModuleId} {result : Except Failure Unit}
    {s₁ s₂ t : Session} (hread : Reads s id c data)
    (hsave : Action.saveCopy c.canonical data s = .ok ⟨⟩ s₁)
    (hdecode : Artifact.decode c.qualified data = .ok code)
    (hnew : Action.newUnitModule id c s₁ = .ok m s₂)
    (hrun : Action.attempt (runBody (inside s) m code) (s₂.begun id m) = .ok result t) :
    BodyEnds s id result (t.ended id m (.of result))

/-- Why a load of a finished artifact may fail without saying that the artifact cannot be made a module. -/
inductive Escapes (s : Session) (id : ContextId) : Prop where
  /-- The side store asks to leave the program. -/
  | unsaved {c : Context} {data : Bytes} {why : Raised} {t : Session} (hread : Reads s id c data)
    (hsave : Action.saveCopy c.canonical data s = .error (.raised why) t) (hwhy : why.isOrdinary = false)
  /-- The payload is refused by an exception that does not count as corruption. -/
  | refused {c : Context} {data : Bytes} {why : Raised} (hread : Reads s id c data)
    (hdecode : Artifact.decode c.qualified data = .error (.raised why))
  /-- The body asks to leave the program. -/
  | left {f : Failure} {t : Session} (hends : BodyEnds s id (.error f) t) (hf : f.isOrdinary = false)
  /-- The body fails, and so does the wording of its failure. -/
  | unworded {f g : Failure} {t u : Session} (hends : BodyEnds s id (.error f) t)
    (hf : f.isOrdinary = true) (hworded : worded (inside s) f t = .error g u)
    (hg : g.isArtifactLoad = false)

variable {s t u : Session} {id : ContextId} {f g : Failure}

/-- What is no exception object is worded already. -/
theorem withWording_of_isArtifactLoad {α : Type} (hf : f.isArtifactLoad = true) (s : Session) :
    withWording (throw f : Action α) s = .error f s :=
  withWording_of_isOfReading (.of_isArtifactLoad hf) s

theorem withWording_of_error {α : Type} {act : Action α} (h : act s = .error f t)
    (hf : f.isArtifactLoad = true) : withWording act s = .error f t := by
  have hrest : withWording act s = withWording (throw f) t := withWording_of_goes_on h
  rw [hrest, withWording_of_isArtifactLoad hf]

/-- **A load of a finished artifact ends with a failure that does not say that the artifact cannot be loaded
only by one of these ways.** -/
theorem escapes_of_load {c : Context} (hc : s.contexts[id]? = some c) (hfrozen : c.artifact.isFrozen = true)
    (h : load id s = .error f t) (hf : f.isArtifactLoad = false) : Escapes s id := by
  -- a load that says that the artifact cannot be loaded is not the one in question
  have hother {g : Failure} {u : Session} (hload : load id s = .error g u) (hg : g.isArtifactLoad = true) :
      False := by
    cases hload.symm.trans h
    cases hg.symm.trans hf
  cases making (inside s) id s with
  | unread hnone _ hmake =>
    cases hm : c.module? with
    | some m => cases hmake.symm.trans (materialize_of_module _ hc hm)
    | none =>
      obtain ⟨data, hbytes⟩ := File.exists_bytes hfrozen
      exact absurd ⟨hc, hm, hbytes⟩ (hnone c data)
  | held hc hm _ => cases (load_of_module hc hm).symm.trans h
  | unsaved hread hsave hwhy _ => exact .unsaved hread hsave hwhy
  | @undecoded c data g u hread hsave hdecode hmake =>
    rcases Artifact.decode_cases hdecode with hg | ⟨why, rfl⟩
    · have hload : load id s = withWording (throw g) u := load_of_goes_on hmake
      exact (hother (hload.trans (withWording_of_isArtifactLoad hg u)) hg).elim
    · exact .refused hread hdecode
  | @ran c data code m result s₁ s₂ u hread hsave hdecode hnew hplace hrun hmake =>
    have hends := BodyEnds.intro hread hsave hdecode hnew hrun
    have hload := load_of_goes_on hmake
    cases result with
    | ok _ => cases hload.symm.trans h
    | error g =>
      cases hordinary : g.isOrdinary with
      | false => exact .left hends hordinary
      | true =>
        rw [conclude, if_pos hordinary] at hload
        cases hworded : worded (inside s) g (u.ended id m (.of (.error g))) with
        | ok g' v =>
          have hwrapped : withWording (do
              throw (.error (.bodyFailed c.qualified (← worded (inside s) g))) : Action ModuleId)
              (u.ended id m (.of (.error g))) = .error (.error (.bodyFailed c.qualified g')) v :=
            withWording_of_error (Action.bind_ok hworded) rfl
          exact (hother (hload.trans hwrapped) rfl).elim
        | error g' v =>
          cases hg : g'.isArtifactLoad with
          | false => exact .unworded hends hordinary hworded hg
          | true =>
            exact (hother (hload.trans (withWording_of_error (Action.bind_error hworded) hg)) hg).elim

end UnitFoundry.Loader
