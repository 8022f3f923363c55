import UnitFoundry.Backend.Scenario
import UnitFoundry.Proofs.Compiler.Governed
import UnitFoundry.Proofs.Registry
import UnitFoundry.Proofs.Session.Runs

/-!
# Reachable sessions

A session is reachable if operations lead to it from one in which nothing has been compiled. An
operation may fail: the session is then the one that the failure has left behind.

* `Operation` — what can be done to a session from outside;
* `Operation.answer` — what an operation gives to its caller;
* `Session.Reachable` — the sessions that operations lead to;
* `keeps_answer`, `keeps_perform` — **what allows compilations is kept to by every operation**;
* `sound_perform` — so every operation keeps a session sound, and leaves no body running;
* `Reachable.inv` — **what every operation keeps holds in every reachable session**;
* `Reachable.sound`, `Reachable.rests` — so every reachable session is sound, and no body runs in it;
* `holdingUnits` — the session in which some units have just been published.
-/

namespace UnitFoundry

open Script Text

/-! ## Operations -/

/-- What can be done to a session from outside. -/
inductive Operation where
  /-- A scope is opened. -/
  | openScope
  /-- A writer is opened, through a scope or not. -/
  | openOutput (scope : Option ScopeId) (location : Location) (name : String) (kind : FileKind)
      (sibling : Option File)
  | write (id : WriterId) (data : Bytes)
  | seek (id : WriterId) (position : Int)
  | close (id : WriterId)
  /-- A context that nobody has written is published. -/
  | pending (name : String)
  /-- A context is published again. -/
  | replace (id : ContextId)
  | clear
  | putSource (location : Location) (package relativeName : String) (file : File)
  /-- A backend is invoked outside of a compilation. -/
  | invoke (backend : Backend) (isLogged : Bool) (options : Options) (sources : List File)
  | compile (backend : Backend) (name source : String)
  | configure (change : Change)
  | loadActive (name : String)
  | load (id : ContextId)
  | loadUnit (id : ContextId) (name : String)
  /-- An object is made, to be passed on. -/
  | make (o : Object)
  | call (m : ModuleId) (path : String) (arguments : List Value)
  | setAttribute (m : ModuleId) (name : String) (value : Value)
  | logResourcePath

namespace Operation

/-- What an operation does. -/
def perform : Operation → Action Unit
  | openScope => do
    let _ ← Emission.openScope
  | openOutput scope location name kind sibling => do
    let _ ← Emission.openOutput scope location name kind sibling
  | write id data => do
    let _ ← Emission.write id data
  | seek id position => do
    let _ ← Emission.seek id position
  | close id => Emission.close id
  | pending name => do
    let id ← Action.newContext name
    let _ ← Action.replace id
  | replace id => do
    let _ ← Action.replace id
  | clear => Action.clearRegistry
  | putSource location package relativeName file =>
    Overlay.putSource location package relativeName file
  | invoke backend isLogged options sources => do
    let _ ← backend.invoke (if isLogged then logDiagnostic else fun _ => pure ()) options sources
  | compile backend name source => do
    let _ ← Compiler.compile backend name source
  | configure change => Compiler.configure change
  | loadActive name => do
    let _ ← Compiler.loadActive name
  | load id => do
    let _ ← Loader.load id
  | loadUnit id name => do
    let _ ← Loader.loadUnit id name
  | make o => do
    let _ ← Action.newObject o
  | call m path arguments => do
    let _ ← Loader.invoke m path arguments
  | setAttribute m name value => Script.setAttribute (.module m) name value
  | logResourcePath => Compiler.logResourcePath

/-- What is given to the caller of an operation. -/
inductive Answer where
  | done
  | scope (id : ScopeId)
  | writer (id : WriterId)
  | count (n : Nat)
  | replaced (before : Option ContextId)
  | outcome (outcome : Outcome)
  | module (m : ModuleId)
  | value (value : Value)

/-- What an operation does, and what it gives to its caller. -/
def answer : Operation → Action Answer
  | openScope => .scope <$> Emission.openScope
  | openOutput scope location name kind sibling => .writer <$> Emission.openOutput scope location name kind sibling
  | write id data => .count <$> Emission.write id data
  | seek id position => .count <$> Emission.seek id position
  | close id => (fun _ => .done) <$> Emission.close id
  | pending name => Action.newContext name >>= fun id => .replaced <$> Action.replace id
  | replace id => .replaced <$> Action.replace id
  | clear => (fun _ => .done) <$> Action.clearRegistry
  | putSource location package relativeName file =>
    (fun _ => .done) <$> Overlay.putSource location package relativeName file
  | invoke backend isLogged options sources =>
    .outcome <$> backend.invoke (if isLogged then logDiagnostic else fun _ => pure ()) options sources
  | compile backend name source => .module <$> Compiler.compile backend name source
  | configure change => (fun _ => .done) <$> Compiler.configure change
  | loadActive name => .module <$> Compiler.loadActive name
  | load id => .module <$> Loader.load id
  | loadUnit id name => .value <$> Loader.loadUnit id name
  | make o => .value <$> Action.newObject o
  | call m path arguments => .value <$> Loader.invoke m path arguments
  | setAttribute m name value => (fun _ => .done) <$> Script.setAttribute (.module m) name value
  | logResourcePath => (fun _ => .done) <$> Compiler.logResourcePath

theorem perform_eq (o : Operation) : o.perform = (do let _ ← o.answer) := by
  cases o <;> simp [perform, answer]

/-- An operation is for names of units that a contract allows, and runs backends within the contract. -/
def Within (d : Emitting) : Operation → Prop
  | openOutput _ _ name _ _ | pending name => d.mayOpen name
  | invoke backend _ _ _ | compile backend _ _ => backend.Within d
  | _ => True

/-- Whether an operation publishes by the closing of writers only, if it publishes anything. -/
def isRegular : Operation → Bool
  | pending _ | replace _ => false
  | _ => true

end Operation

theorem Emitting.IsFree.operation {d : Emitting} (h : d.IsFree) (o : Operation) : o.Within d := by
  cases o with
  | openOutput _ _ name | pending name => exact h.opens name
  | invoke backend | compile backend => exact h.backend backend
  | openScope | write | seek | close | replace | clear | putSource | configure | loadActive | load | loadUnit | make
  | call | setAttribute | logResourcePath => trivial

/-! ## Reachable sessions -/

namespace Session

/-- The session that an operation leaves behind. -/
def after (act : Action Unit) (s : Session) : Session :=
  match act s with
  | .ok _ t => t
  | .error _ t => t

/-- A session in which nothing has been compiled: it has no contexts, and so nothing that belongs to
contexts. -/
structure IsFresh (s : Session) : Prop where
  contexts : s.contexts = []
  registry : s.registry = {}
  writers : s.writers = []
  scopes : s.scopes = []
  modules : s.modules = []
  history : s.history = []

/-- The sessions that operations lead to. -/
inductive Reachable : Session → Prop where
  | fresh {s : Session} (h : s.IsFresh) : Reachable s
  | step {s : Session} (h : Reachable s) (operation : Operation) : Reachable (s.after operation.perform)

/-- The session that operations one after the other leave behind. -/
def performed (s : Session) (operations : List Operation) : Session :=
  operations.foldl (fun s operation => s.after operation.perform) s

theorem Reachable.performed {s : Session} (h : s.Reachable) (operations : List Operation) :
    (s.performed operations).Reachable := by
  induction operations generalizing s with
  | nil => exact h
  | cons operation rest ih => exact ih (.step h operation)

theorem isFresh_empty : IsFresh {} := ⟨rfl, rfl, rfl, rfl, rfl, rfl⟩

/-! ## What operations keep to -/

/-- A context is made, and nothing has happened to it. -/
theorem Sound.created {s : Session} (hs : s.Sound) {made : Context}
    (hmade : made.module? = none ∧ made.ready = false) :
    Sound { s with contexts := s.contexts ++ [made] } where
  known e he := Nat.lt_of_lt_of_le (hs.known e he) (by simp)
  told id c hc := by
    rcases getElem?_concat_cases hc with hbefore | ⟨rfl, rfl⟩
    · exact hs.told id c hbefore
    · show c.IsAfter (s.lastEvent? s.contexts.length)
      rw [hs.lastEvent?_length]
      exact hmade
  linked canonical id hl := Nat.lt_of_lt_of_le (hs.linked canonical id hl) (by simp)

/-- The artifact of a context is neither its module nor its readiness. -/
theorem Sound.written {s : Session} (hs : s.Sound) (id : ContextId) (change : File → File) :
    Sound { s with contexts := s.contexts.modify id fun c =>
      { c with artifact := change c.artifact } } where
  known e he := Nat.lt_of_lt_of_le (hs.known e he) (by simp)
  told other c hc := by
    rcases getElem?_modify_cases hc with ⟨c₀, rfl, hc₀, rfl⟩ | ⟨-, hc⟩
    · exact (hs.told id c₀ hc₀).congr rfl rfl
    · exact hs.told other c hc
  linked canonical other hl := Nat.lt_of_lt_of_le (hs.linked canonical other hl) (by simp)

/-- A context that is there is published. -/
theorem Sound.replace {s : Session} (hs : s.Sound) {id : ContextId} (hid : id < s.contexts.length)
    (canonical : String) : Sound { s with registry := s.registry.replace canonical id } where
  known := hs.known
  told := hs.told
  linked name other hl := by
    rw [Registry.lookup?_replace] at hl
    split at hl
    · obtain rfl := Option.some.inj hl
      exact hid
    · exact hs.linked name other hl

/-- To keep a session sound allows all that compilations do. -/
def soundCompiling : Compiling where
  toDiscipline := sound
  aside h hs := ⟨hs.congr h.contexts h.history h.registry, .of_history h.history⟩
  created _ _ _ hs := ⟨hs.created ⟨rfl, rfl⟩, .of_history rfl⟩
  opened s name _ _ hs := by
    have hcreated : Sound { s with contexts := s.contexts ++ [Emission.opened name] } :=
      hs.created ⟨rfl, rfl⟩
    exact ⟨hcreated.congr rfl rfl rfl, .of_history rfl⟩
  written _ _ _ _ _ _ hs := ⟨hs.congr rfl rfl rfl, .of_history rfl⟩
  sealed _ _ w _ _ hs :=
    ⟨(hs.written w.context (·.freeze w.writer.buffer)).congr rfl rfl rfl, .of_history rfl⟩
  published _ _ c hc _ hs := ⟨hs.replace (List.getElem?_eq_some_iff.1 hc).1 c.canonical, .of_history rfl⟩
  lenient _ := trivial
  materializes := sound_materializes

/-- To keep a session sound allows the steps of emission. -/
def soundEmitting : Emitting := soundCompiling.toEmitting

/-! ### All operations -/

/-- **Every operation keeps to what allows compilations**, if it allows that the registry is cleared and,
unless the operation publishes by writers only, that any context is published. The operation is to be within
what is allowed. -/
theorem keeps_answer (d : Compiling) (hclear : ∀ s, d.inv s →
      d.inv { s with registry := {} } ∧ d.rel s { s with registry := {} })
    (operation : Operation) (hmay : operation.isRegular = true ∨ ∀ c, d.mayPublish c)
    (hwithin : operation.Within d.toEmitting) : d.Keeps operation.answer := by
  have hany (h : operation.isRegular = false) (c : Context) : d.mayPublish c := by
    rcases hmay with hregular | hmay
    · cases h.symm.trans hregular
    · exact hmay c
  cases operation with
  | openScope => exact d.toEmitting.keeps_openScope.map
  | openOutput scope location name kind sibling => exact (d.toEmitting.keeps_openOutput scope location hwithin ..).map
  | write id data => exact (d.toEmitting.keeps_write id data).map
  | seek id position => exact (d.toEmitting.keeps_seek id position).map
  | close id => exact (d.toEmitting.keeps_close id).map
  | pending name =>
    exact (d.toEmitting.keeps_newContext hwithin).bind fun id _ => (d.toEmitting.keeps_replace (hany rfl) id).map
  | replace id => exact (d.toEmitting.keeps_replace (hany rfl) id).map
  | clear =>
    exact (Discipline.keeps_change (fun _ => ()) (fun s => { s with registry := {} }) (fun _ => rfl) hclear
      (fun _ => ⟨rfl, rfl, rfl⟩) fun _ _ h => ⟨rfl, { h with registry := rfl }⟩).map
  | putSource location package relativeName file => exact (d.toEmitting.keeps_putSource ..).map
  | invoke backend isLogged options sources =>
    refine (d.toEmitting.keeps_invoke (fun x => ?_) hwithin options sources).map
    cases isLogged with
    | true => exact d.toEmitting.keeps_logDiagnostic x
    | false => exact .pure ()
  | compile backend name source => exact (d.keeps_compile backend name source hwithin).map
  | configure change => exact (d.toEmitting.keeps_setPolicy (·.configure change)).map
  | loadActive name => exact (d.serves.keeps_loadActive name).map
  | load id => exact (d.serves.keeps_load id).map
  | loadUnit id name => exact (d.materializes.keeps_loadUnit id name).map
  | make o => exact (Discipline.keeps_newObject o).map
  | call m path arguments => exact (d.materializes.keeps_invoke m path arguments).map
  | setAttribute m name value => exact (Discipline.keeps_setAttribute ..).map
  | logResourcePath =>
    exact (Discipline.keeps_seeing (fun _ => d.serves.logged ..) fun _ _ h => by rw [h.resources]).map

/-- What is given to its caller is of no importance to a contract. -/
theorem keeps_perform (d : Compiling) (hclear : ∀ s, d.inv s →
      d.inv { s with registry := {} } ∧ d.rel s { s with registry := {} })
    (operation : Operation)
    (hmay : operation.isRegular = true ∨ ∀ c, d.mayPublish c := by exact .inr fun _ => trivial)
    (hwithin : operation.Within d.toEmitting := by exact Emitting.IsFree.operation {} _) :
    d.Keeps operation.perform := by
  rw [Operation.perform_eq]
  exact (keeps_answer d hclear operation hmay hwithin).bind fun _ _ => .pure ()

/-- What an operation leaves behind, whatever it ends with. -/
theorem inv_after {c : Contract Session} {act : Action Unit} (h : c.Keeps act) {s : Session}
    (hs : c.inv s) : c.inv (s.after act) ∧ c.rel s (s.after act) := by
  unfold Session.after
  cases hr : act s with
  | ok x t => exact h.ok hs hr
  | error f t =>
    have hended := h.error hs hr
    exact ⟨hended.1, hended.2.1⟩

/-- What several operations leave behind. -/
theorem inv_performed {c : Contract Session} (h : ∀ operation : Operation, c.Keeps operation.perform)
    (operations : List Operation) {s : Session} (hs : c.inv s) :
    c.inv (s.performed operations) ∧ c.rel s (s.performed operations) := by
  induction operations generalizing s with
  | nil => exact ⟨hs, c.refl s⟩
  | cons operation rest ih =>
    obtain ⟨hfirst, hrel⟩ := inv_after (h operation) hs
    obtain ⟨hlast, hrest⟩ := ih hfirst
    exact ⟨hlast, c.trans hrel hrest⟩

/-- To keep a session sound allows that the registry is cleared. -/
theorem sound_clear (s : Session) (hs : s.Sound) :
    Sound { s with registry := {} } ∧ SameRuns s { s with registry := {} } := by
  refine ⟨⟨hs.known, hs.told, fun _ _ hl => ?_⟩, .of_history rfl⟩
  cases hl

/-- **Every operation keeps a session sound** and leaves running what ran before. -/
theorem sound_perform (operation : Operation) : sound.Keeps operation.perform :=
  keeps_perform soundCompiling sound_clear operation

/-! ## What holds of reachable sessions -/

variable {s : Session}

theorem IsFresh.sound (h : s.IsFresh) : s.Sound where
  known e he := by simp [h.history] at he
  told id c hc := by simp [h.contexts] at hc
  linked canonical id hl := by
    rw [h.registry] at hl
    cases hl

theorem IsFresh.rests (h : s.IsFresh) (id : ContextId) (m : ModuleId) : ¬ s.Runs id m := by
  simp [Runs, lastEvent?, h.history]

theorem Sound.after (h : s.Sound) (operation : Operation) :
    (s.after operation.perform).Sound ∧ SameRuns s (s.after operation.perform) :=
  inv_after (sound_perform operation) h

/-- **What every operation keeps holds in every reachable session**, if it holds where nothing has been
compiled. -/
theorem Reachable.inv {c : Contract Session} (h : s.Reachable) (hfresh : ∀ t : Session, t.IsFresh → c.inv t)
    (hkeeps : ∀ operation : Operation, c.Keeps operation.perform) : c.inv s := by
  induction h with
  | fresh h => exact hfresh _ h
  | step _ operation ih => exact (inv_after (hkeeps operation) ih).1

/-- **Every reachable session is sound.** -/
theorem Reachable.sound (h : s.Reachable) : s.Sound :=
  h.inv (fun _ hfresh => hfresh.sound) sound_perform

/-- **In a reachable session no body runs.** -/
theorem Reachable.rests (h : s.Reachable) (id : ContextId) (m : ModuleId) : ¬ s.Runs id m := by
  induction h with
  | fresh h => exact h.rests id m
  | step h operation ih =>
    intro hruns
    exact ih (((h.sound.after operation).2 id m).2 hruns)

/-! ## Sessions with units -/

/-- A session in which units are published whose sources are given, with their names. -/
def holdingUnits (units : List (String × String)) : Session :=
  Session.performed {} (units.zipIdx.flatMap fun ((name, source), n) =>
    [.openOutput none .classOutput name .artifact none, .write n (Scenario.artifactOf name source),
      .close n])

theorem holdingUnits_reachable (units : List (String × String)) : (holdingUnits units).Reachable :=
  (Reachable.fresh isFresh_empty).performed _

end Session

end UnitFoundry
