import UnitFoundry.Compiler
import UnitFoundry.Proofs.Loader.Governed

/-!
# How modules are made

A context that holds a module hands it out. For one that holds none, the artifact is read and saved, and
the body of the unit runs in a new module; the way in which the run ends decides what the load ends with.

* `Failure.IsOfLoad`, `Failure.IsOfReading` — the failures that loads can end with, and those before the
  body runs;
* `Loader.Reads` — a module is to be made, and the artifact can be read;
* `Loader.Making` — the ways in which the making of a module goes, step by step;
* `Discipline.Makes` — a discipline that allows these ways;
* `Discipline.Makes.materializes` — **the making of modules keeps to it**, and so do all loads;
* `Discipline.Hosts` — one that looks at the run of the body alone, and not at the copy that is saved before;
* `Discipline.Loads` — one that allows the steps whatever the context they are taken for.
-/

namespace UnitFoundry

open Script Text

/-! ## Artifacts that cannot be used -/

/-- The failures that a load can end with. -/
def Failure.IsOfLoad : Failure → Prop
  | .error e => Compiler.isUnusable e
  | .invalid _ _ => False
  | .raised _ => True
  | .thrown _ _ => True

/-- The failures that a load can end with before the body of the unit runs. -/
def Failure.IsOfReading : Failure → Prop
  | .error e => Compiler.isUnusable e
  | .raised _ => True
  | _ => False

theorem Failure.IsOfReading.isOfLoad {f : Failure} (h : f.IsOfReading) : f.IsOfLoad := by
  cases f with
  | error => exact h
  | invalid => exact h.elim
  | raised => trivial
  | thrown => trivial

/-- Only bytes that change no more can be read. -/
theorem File.isFrozen_of_bytes {file : File} {data : Bytes} (h : file.bytes = .ok data) :
    file.isFrozen = true := by
  unfold File.bytes at h
  split at h
  all_goals simp_all [File.isFrozen]

/-- Bytes that change no more can be read. -/
theorem File.exists_bytes {file : File} (h : file.isFrozen = true) : ∃ data, file.bytes = .ok data := by
  unfold File.isFrozen at h
  unfold File.bytes
  cases hcontent : file.content with
  | text s => exact ⟨_, rfl⟩
  | frozen bytes => exact ⟨_, rfl⟩
  | unwritten => simp [hcontent] at h
  | opened => simp [hcontent] at h

theorem File.bytes_fails {file : File} {f : Failure} (h : file.bytes = .error f) : f.IsOfReading := by
  unfold File.bytes at h
  split at h
  all_goals cases h
  all_goals rfl

/-- Whether a failure says that the bytes of an artifact cannot be made a module. -/
def Failure.isArtifactLoad : Failure → Bool
  | .error e =>
    match e.kind with
    | .artifactLoad => true
    | _ => false
  | _ => false

/-- What cannot be decoded is refused by an error that says so, or by an exception. -/
theorem Artifact.decode_cases {name : String} {data : Bytes} {f : Failure}
    (h : Artifact.decode name data = .error f) : f.isArtifactLoad = true ∨ ∃ why, f = .raised why := by
  unfold Artifact.decode at h
  split at h
  · cases h
    exact .inl rfl
  split at h
  · cases h
    exact .inl rfl
  split at h
  · cases h
    split
    · exact .inl rfl
    · exact .inr ⟨_, rfl⟩
  · cases h
  · cases h
    exact .inl rfl

theorem Failure.IsOfReading.of_isArtifactLoad {f : Failure} (h : f.isArtifactLoad = true) :
    f.IsOfReading := by
  cases f with
  | error e =>
    cases hkind : e.kind <;> simp_all [isArtifactLoad, IsOfReading, Compiler.isUnusable]
  | invalid => cases h
  | raised => trivial
  | thrown => cases h

theorem Artifact.decode_fails {name : String} {data : Bytes} {f : Failure}
    (h : Artifact.decode name data = .error f) : f.IsOfReading := by
  rcases decode_cases h with hload | ⟨why, rfl⟩
  · exact .of_isArtifactLoad hload
  · trivial

/-! ## The making of a module -/

namespace Loader

variable {engine : Engine} {id : ContextId} {c : Context} {m : ModuleId} {code : Code}
  {s s₁ s₂ t : Session}

/-- What follows the run of a body. -/
def conclude (engine : Engine) (c : Context) (m : ModuleId) : Except Failure Unit → Action ModuleId
  | .ok _ => do
    Action.logged .debug .loading ("[context:load] " ++ c.qualified)
    pure m
  | .error failure =>
    if failure.isOrdinary then do throw (.error (.bodyFailed c.qualified (← worded engine failure)))
    else throw failure

/-- A module is handed out only after a run that has completed. -/
theorem conclude_eq_ok {n : ModuleId} {result : Except Failure Unit}
    (h : conclude engine c m result s = .ok n t) : result = .ok () ∧ n = m ∧ ∃ log, t = { s with log } := by
  cases result with
  | ok _ =>
    cases h
    exact ⟨rfl, rfl, _, rfl⟩
  | error failure =>
    dsimp only [conclude] at h
    split at h
    · obtain ⟨g, u, -, h⟩ := Action.bind_eq_ok.1 h
      cases h
    · cases h

/-- A module is made by a run of the body in it, whatever that ends with. -/
theorem runUnit_apply {result : Except Failure Unit} (hnew : Action.newUnitModule id c s = .ok m s₁)
    (hrun : Action.attempt (runBody engine m code) (s₁.begun id m) = .ok result t) :
    runUnit engine id c code s = conclude engine c m result (t.ended id m (.of result)) := by
  have hin : inRun id m (runBody engine m code) s₁ = .ok result (t.ended id m (.of result)) := by
    simp only [inRun, Action.bind_ok (Action.beginRun_apply id m s₁), Action.bind_ok hrun,
      Action.bind_ok (Action.endRun_apply id m _ t), Action.pure_apply]
  rw [runUnit, Action.bind_ok hnew, Action.bind_ok hin]
  cases result <;> rfl

/-- A module is to be made for a context, and the bytes of its artifact can be read. -/
structure Reads (s : Session) (id : ContextId) (c : Context) (data : Bytes) : Prop where
  context : s.contexts[id]? = some c
  unloaded : c.module? = none
  bytes : c.artifact.bytes = .ok data

namespace Reads

variable {c' : Context} {data data' : Bytes}

theorem isFrozen (h : Reads s id c data) : c.artifact.isFrozen = true := File.isFrozen_of_bytes h.bytes

theorem unique (h : Reads s id c data) (h' : Reads s id c' data') : c = c' ∧ data = data' := by
  obtain rfl := Option.some.inj (h.context.symm.trans h'.context)
  exact ⟨rfl, Except.ok.inj (h.bytes.symm.trans h'.bytes)⟩

/-- Saving a copy leaves the context as it is. -/
theorem saved (h : Reads s id c data) (hsave : Action.saveCopy c.canonical data s = .ok ⟨⟩ t) :
    Reads t id c data := by
  obtain ⟨sideStore, disk, log, rfl⟩ := Action.attempt_saveCopy (Action.attempt_ok hsave)
  exact ⟨h.context, h.unloaded, h.bytes⟩

end Reads

/-- Saving a copy leaves the modules as they are. -/
theorem modules_of_saveCopy {name : String} {data : Bytes} (h : Action.saveCopy name data s = .ok ⟨⟩ t) :
    t.modules = s.modules := by
  obtain ⟨sideStore, disk, log, rfl⟩ := Action.attempt_saveCopy (Action.attempt_ok h)
  rfl

/-- The ways in which the making of a module goes, and what it comes to. -/
inductive Making (engine : Engine) (id : ContextId) (s : Session) : Prop where
  /-- There is nothing to be read. -/
  | unread {f : Failure} (hnone : ∀ c data, ¬ Reads s id c data) (hf : f.IsOfReading)
    (h : materialize engine id s = .error f s)
  /-- The module is there already. -/
  | held {c : Context} {m : ModuleId} (hc : s.contexts[id]? = some c) (hm : c.module? = some m)
    (h : materialize engine id s = .ok m s)
  /-- The side store asks to leave the program. -/
  | unsaved {c : Context} {data : Bytes} {why : Raised} {t : Session} (hread : Reads s id c data)
    (hsave : Action.saveCopy c.canonical data s = .error (.raised why) t) (hwhy : why.isOrdinary = false)
    (h : materialize engine id s = .error (.raised why) t)
  /-- What has been read is no artifact that can be run. -/
  | undecoded {c : Context} {data : Bytes} {f : Failure} {t : Session} (hread : Reads s id c data)
    (hsave : Action.saveCopy c.canonical data s = .ok ⟨⟩ t)
    (hdecode : Artifact.decode c.qualified data = .error f) (h : materialize engine id s = .error f t)
  /-- The body runs. -/
  | ran {c : Context} {data : Bytes} {code : Code} {m : ModuleId} {result : Except Failure Unit}
    {s₁ s₂ t : Session} (hread : Reads s id c data)
    (hsave : Action.saveCopy c.canonical data s = .ok ⟨⟩ s₁)
    (hdecode : Artifact.decode c.qualified data = .ok code)
    (hnew : Action.newUnitModule id c s₁ = .ok m s₂) (hplace : m = s₁.modules.length)
    (hrun : Action.attempt (runBody engine m code) (s₂.begun id m) = .ok result t)
    (h : materialize engine id s = conclude engine c m result (t.ended id m (.of result)))

/-- **The making of a module goes in one of these ways.** -/
theorem making (engine : Engine) (id : ContextId) (s : Session) : Making engine id s := by
  cases hc : s.contexts[id]? with
  | none =>
    have hmissing : materialize engine id s = .error (.exception "LookupError" "no such context") s :=
      Action.bind_error (Action.context_none hc)
    refine .unread (f := .exception "LookupError" "no such context") (fun c data h => ?_) trivial hmissing
    cases hc.symm.trans h.context
  | some c =>
    cases hm : c.module? with
    | some m => exact .held hc hm (materialize_of_module engine hc hm)
    | none =>
      have hread : materialize engine id s = (ofExcept c.artifact.bytes >>= fun data => do
          Action.saveCopy c.canonical data
          let code ← ofExcept (Artifact.decode c.qualified data)
          runUnit engine id c code : Action ModuleId) s := by
        rw [materialize, Action.bind_ok (Action.context_some hc), hm]
      cases hb : c.artifact.bytes with
      | error f =>
        refine .unread (fun c' data h => ?_) (File.bytes_fails hb) ?_
        · obtain rfl := Option.some.inj (hc.symm.trans h.context)
          cases hb.symm.trans h.bytes
        · rw [hread, hb, Action.bind_error (Action.ofExcept_error f s)]
      | ok data =>
        have hreads : Reads s id c data := ⟨hc, hm, hb⟩
        rw [hb, Action.bind_ok (Action.ofExcept_ok data s)] at hread
        obtain ⟨sideStore, disk, log, hsave | ⟨why, hwhy, hsave⟩⟩ :=
          Action.saveCopy_apply c.canonical data s
        · rw [Action.bind_ok hsave] at hread
          cases hd : Artifact.decode c.qualified data with
          | error f =>
            refine .undecoded hreads hsave hd ?_
            rw [hread, hd, Action.bind_error (Action.ofExcept_error f _)]
          | ok code =>
            obtain ⟨unit, made, hnew⟩ := Action.newUnitModule_apply id c { s with sideStore, disk, log }
            obtain ⟨result, t, hrun⟩ := Action.attempt_total (runBody engine s.modules.length code)
              (Session.begun { s with sideStore, disk, log, made, modules := s.modules ++ [unit] } id
                s.modules.length)
            refine .ran hreads hsave hd hnew rfl hrun ?_
            rw [hread, hd, Action.bind_ok (Action.ofExcept_ok code _), runUnit_apply hnew hrun]
        · refine .unsaved hreads hsave hwhy ?_
          rw [hread, Action.bind_error hsave]

/-! ### Loads from outside -/

/-- What is loaded and called inside of a load from outside. -/
def inside (s : Session) : Engine := callEngine (loaderWithin (s.contexts.length + wordingLimit)) callLimit

/-- What an operation goes on as gets the same wording. -/
theorem withWording_of_goes_on {α : Type} {act rest : Action α} (h : act s = rest t) :
    withWording act s = withWording rest t := by
  have hattempt : Action.attempt act s = Action.attempt rest t := by
    unfold Action.attempt
    rw [h]
  obtain ⟨result, u, hrest⟩ := Action.attempt_total rest t
  rw [withWording, withWording, Action.bind_ok hrest, Action.bind_ok (hattempt.trans hrest)]

/-- What fails before the body runs is worded already. -/
theorem withWording_of_isOfReading {α : Type} {f : Failure} (hf : f.IsOfReading) (s : Session) :
    withWording (throw f : Action α) s = .error f s := by
  have hattempt : Action.attempt (throw f : Action α) s = .ok (.error f) s := Action.attempt_error rfl
  rw [withWording, Action.bind_ok hattempt]
  cases f with
  | error => rfl
  | invalid => exact hf.elim
  | raised => rfl
  | thrown => exact hf.elim

/-- A load from outside ends as the making of a module does, with the wording of its failure. -/
theorem load_of_goes_on {rest : Action ModuleId} (h : materialize (inside s) id s = rest t) :
    load id s = withWording rest t :=
  withWording_of_goes_on h

end Loader

namespace Script.Discipline

open Loader

variable {d : Discipline} {engine : Engine}

/-- A discipline on single runs that allows each way in which the making of a module goes, the copy that is
saved included, and the failures of loads. Bodies run only in modules that are new. -/
structure Makes (d : Discipline) : Prop where
  plain : d.alike = Eq := by rfl
  logged : ∀ {s} log, d.inv s → d.inv { s with log } ∧ d.rel s { s with log }
  unusable : ∀ e, Compiler.isUnusable e → d.fails (.error e)
  room : ∀ {s}, d.inv s → d.mayBind s.modules.length
  unsaved : ∀ {s t id c data why}, d.inv s → Reads s id c data →
    Action.saveCopy c.canonical data s = .error (.raised why) t → d.inv t ∧ d.rel s t
  undecoded : ∀ {s t id c data f}, d.inv s → Reads s id c data →
    Action.saveCopy c.canonical data s = .ok ⟨⟩ t → Artifact.decode c.qualified data = .error f →
    d.inv t ∧ d.rel s t
  ran : ∀ {s s₁ s₂ t id c data code m} {body : Action Unit} {result}, d.inv s → Reads s id c data →
    Action.saveCopy c.canonical data s = .ok ⟨⟩ s₁ → Artifact.decode c.qualified data = .ok code →
    Action.newUnitModule id c s₁ = .ok m s₂ → d.Keeps body →
    Action.attempt body (s₂.begun id m) = .ok result t →
    d.inv (t.ended id m (.of result)) ∧ d.rel s (t.ended id m (.of result))

namespace Makes

theorem fails {f : Failure} (h : d.Makes) (hf : f.IsOfLoad) : d.fails f := by
  cases f with
  | error e => exact h.unusable e hf
  | invalid => exact hf.elim
  | raised r => exact d.raised r
  | thrown kind object => exact d.thrown kind object

theorem keeps_logged (h : d.Makes) (severity : Severity) (channel : Channel) (text : String) :
    d.Keeps (Action.logged severity channel text) :=
  .of_ok (fun _ => ()) _ (fun _ => rfl) (fun _ hs => h.logged _ hs) h.plain

theorem keeps_conclude (h : d.Makes) (he : d.Governs engine) (c : Context) (m : ModuleId)
    (result : Except Failure Unit) : d.Keeps (conclude engine c m result) := by
  cases result with
  | ok _ => exact (h.keeps_logged ..).bind fun _ _ => .pure m
  | error f =>
    dsimp only [conclude]
    split
    · exact (keeps_worded he f).bind fun g _ => .throw (h.unusable _ rfl)
    · rename_i hleaves
      cases f with
      | error e => exact absurd rfl hleaves
      | invalid => exact absurd rfl hleaves
      | raised r => exact .throw (d.raised r)
      | thrown kind object => exact .throw (d.thrown kind object)

/-- **The making of modules keeps to what allows the ways in which it goes.** -/
theorem materializes (h : d.Makes) : d.Materializes := by
  intro engine he id
  refine .of_goes_on (fun s hs => ?_) h.plain
  rcases making engine id s with ⟨-, hf, hmake⟩ | ⟨-, -, hmake⟩ | ⟨hread, hsave, -, hmake⟩ |
    ⟨hread, hsave, hdecode, hmake⟩ | ⟨hread, hsave, hdecode, hnew, hplace, hrun, hmake⟩
  · exact ⟨s, throw _, hs, d.refl s, .throw (h.fails hf.isOfLoad), hmake⟩
  · exact ⟨s, pure _, hs, d.refl s, .pure _, hmake⟩
  · obtain ⟨ht, hst⟩ := h.unsaved hs hread hsave
    exact ⟨_, throw _, ht, hst, .throw (d.raised _), hmake⟩
  · obtain ⟨ht, hst⟩ := h.undecoded hs hread hsave hdecode
    exact ⟨_, throw _, ht, hst, .throw (h.fails (Artifact.decode_fails hdecode).isOfLoad), hmake⟩
  · have hm : d.mayBind _ := hplace ▸ modules_of_saveCopy hsave ▸ h.room hs
    obtain ⟨ht, hran⟩ := h.ran hs hread hsave hdecode hnew (keeps_runBody he hm _) hrun
    exact ⟨_, _, ht, hran, h.keeps_conclude he .., hmake⟩

end Makes

/-- A discipline that allows the run of a body, and nothing depends on copies that are saved. Runs begin
only in contexts that hold no module and have a finished artifact, and in modules that are new. -/
structure Hosts (d : Discipline) : Prop where
  plain : d.alike = Eq := by rfl
  quiet : ∀ {s} sideStore disk log, d.inv s →
    d.inv { s with sideStore, disk, log } ∧ d.rel s { s with sideStore, disk, log }
  unusable : ∀ e, Compiler.isUnusable e → d.fails (.error e)
  room : ∀ {s}, d.inv s → d.mayBind s.modules.length
  ran : ∀ {s s₁ t id c m} {body : Action Unit} {result}, d.inv s → s.contexts[id]? = some c →
    c.module? = none → c.artifact.isFrozen = true → Action.newUnitModule id c s = .ok m s₁ →
    d.Keeps body →
    Action.attempt body (s₁.begun id m) = .ok result t →
    d.inv (t.ended id m (.of result)) ∧ d.rel s (t.ended id m (.of result))

namespace Hosts

/-- Whether a copy is saved or refused is of no importance. -/
theorem saved {s t : Session} {name : String} {data : Bytes} {result : Except Failure PUnit} (h : d.Hosts)
    (hs : d.inv s) (hsave : Action.attempt (Action.saveCopy name data) s = .ok result t) :
    d.inv t ∧ d.rel s t := by
  obtain ⟨sideStore, disk, log, rfl⟩ := Action.attempt_saveCopy hsave
  exact h.quiet sideStore disk log hs

theorem makes (h : d.Hosts) : d.Makes where
  plain := h.plain
  logged log hs := h.quiet _ _ log hs
  unusable := h.unusable
  room := h.room
  unsaved hs _ hsave := h.saved hs (Action.attempt_error hsave)
  undecoded hs _ hsave _ := h.saved hs (Action.attempt_ok hsave)
  ran hs hread hsave _ hnew hbody hrun := by
    obtain ⟨hs₁, hsaved⟩ := h.saved hs (Action.attempt_ok hsave)
    obtain ⟨hc, hm, -⟩ := hread.saved hsave
    obtain ⟨ht, hran⟩ := h.ran hs₁ hc hm hread.isFrozen hnew hbody hrun
    exact ⟨ht, d.trans hsaved hran⟩

/-- **The making of modules keeps to what allows the runs of bodies.** -/
theorem materializes (h : d.Hosts) : d.Materializes := h.makes.materializes

end Hosts

/-- A discipline that allows each step by which a module is made, whatever the context it is made for. -/
structure Loads (d : Discipline) : Prop where
  plain : d.alike = Eq := by rfl
  created : ∀ id c, d.Keeps (Action.newUnitModule id c)
  quiet : ∀ {s} sideStore disk log, d.inv s →
    d.inv { s with sideStore, disk, log } ∧ d.rel s { s with sideStore, disk, log }
  begun : ∀ id m, d.Keeps (Action.beginRun id m)
  ended : ∀ id m how, d.Keeps (Action.endRun id m how)
  unusable : ∀ e, Compiler.isUnusable e → d.fails (.error e)
  room : ∀ {s}, d.inv s → d.mayBind s.modules.length

namespace Loads

/-- It allows them in particular where a module is made. -/
theorem hosts (h : d.Loads) : d.Hosts where
  plain := h.plain
  quiet := h.quiet
  unusable := h.unusable
  room := h.room
  ran {s s₁ t id c m body result} hs _ _ _ hnew hbody hrun := by
    obtain ⟨hs₁, hcreated⟩ := (h.created id c).ok hs hnew
    obtain ⟨hs₂, hbegun⟩ := (h.begun id m).ok hs₁ (Action.beginRun_apply id m s₁)
    obtain ⟨ht, hkept⟩ := (keeps_attempt hbody).ok hs₂ hrun
    obtain ⟨hu, hended⟩ := (h.ended id m (.of result)).ok ht (Action.endRun_apply id m _ t)
    exact ⟨hu, d.trans (d.trans hcreated hbegun) (d.trans hkept hended)⟩

theorem materializes (h : d.Loads) : d.Materializes := h.hosts.materializes

end Loads

end Script.Discipline

end UnitFoundry
