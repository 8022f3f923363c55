import UnitFoundry.Proofs.Emission.Courses
import UnitFoundry.Proofs.Session.Keeping

/-!
# What emission leaves alone

What a backend asks for makes contexts and writers, publishes, adds to notes and to the log, and changes the policy.
Whatever part of a session does not depend on these is left as it is by every request, and so by every program.

* `Untouched` — a part of the session that no step of emission touches;
* `Untouched.openOutput`, `write`, `seek`, `close`, `replace` — the operations on writers and contexts;
* `Untouched.request`, `Untouched.program`, `Untouched.invoke` — **requests and programs leave it as it is**;
* `untouched_overlay` — such as the files in memory.
-/

namespace UnitFoundry.Emission

open Script Text

variable {α β : Type} {part : Session → β}

/-- A part of the session that no step of emission touches. Scopes only remember more. -/
structure Untouched (part : Session → β) : Prop where
  log : ∀ s log, part { s with log } = part s
  notes : ∀ s notes, part { s with notes } = part s
  policy : ∀ s policy, part { s with policy } = part s
  registry : ∀ s registry, part { s with registry } = part s
  emitted : ∀ s contexts writers, part { s with contexts, writers } = part s
  remembered : ∀ s scope name context, part { s with scopes := remembered scope name context s.scopes } = part s

namespace Untouched

variable (h : Untouched part)
include h

/-! ## Operations on writers and contexts -/

theorem logged (severity : Severity) (channel : Channel) (text : String) :
    (keeping part).Keeps (Action.logged severity channel text) :=
  keeping_logged h.log severity channel text

theorem contexts (s : Session) (contexts : List Context) : part { s with contexts } = part s :=
  h.emitted s contexts s.writers

theorem writers (s : Session) (writers : List OpenWriter) : part { s with writers } = part s :=
  h.emitted s s.contexts writers

theorem newContext (name : String) : (keeping part).Keeps (Action.newContext name) :=
  keeping_iff.2 fun s => h.contexts s _

theorem replace (id : ContextId) : (keeping part).Keeps (Action.replace id) := by
  refine (keeping_context id).bind fun c _ => ?_
  refine .of_goes_on fun s _ => ⟨{ s with registry := s.registry.replace c.canonical id }, _, trivial,
    (h.registry s _).symm, ?_, rfl⟩
  cases s.registry.lookup? c.canonical with
  | some old => exact (keeping_context old).bind fun _ _ => (h.logged ..).bind fun _ _ => .pure _
  | none => exact (h.logged ..).bind fun _ _ => .pure _

theorem remember (scope : Option ScopeId) (name : String) (context : ContextId) :
    (keeping part).Keeps (Emission.remember scope name context) := by
  refine keeping_iff.2 fun s => ?_
  rw [remember_apply]
  exact h.remembered s scope name context

omit h in
theorem writer (id : WriterId) : (keeping part).Keeps (Emission.writer id) := by
  refine keeping_of_look fun s => ?_
  cases hw : s.writers[id]? with
  | some w => rw [writer_some hw]; rfl
  | none => rw [writer_none hw]; rfl

theorem setWriter (id : WriterId) (w : Writer) : (keeping part).Keeps (Emission.setWriter id w) :=
  keeping_modify fun s => h.writers s _

theorem write (id : WriterId) (data : Bytes) : (keeping part).Keeps (Emission.write id data) :=
  (writer id).bind fun _ _ => (keeping_result _).bind fun _ _ => (h.setWriter ..).bind fun _ _ => .pure _

theorem seek (id : WriterId) (position : Int) : (keeping part).Keeps (Emission.seek id position) :=
  (writer id).bind fun _ _ => (keeping_result _).bind fun _ _ => (h.setWriter ..).bind fun _ _ => .pure _

theorem close (id : WriterId) : (keeping part).Keeps (Emission.close id) := by
  refine (writer id).bind fun w _ => ?_
  split
  · exact .pure _
  · refine (keeping_context w.context).bind fun c _ => ?_
    have hfreeze : (keeping part).Keeps
        (Action.changeArtifact w.context fun artifact => artifact.freeze w.writer.buffer) :=
      keeping_modify fun s => h.contexts s _
    exact hfreeze.bind fun _ _ => (h.setWriter ..).bind fun _ _ =>
      (h.replace _).bind fun _ _ => h.remember ..

theorem openOutput (scope : Option ScopeId) (location : Location) (name : String) (kind : FileKind)
    (sibling : Option File) : (keeping part).Keeps (Emission.openOutput scope location name kind sibling) := by
  cases kind with
  | source => exact .throw trivial
  | artifact =>
    refine keeping_iff.2 fun s => ?_
    rw [openOutput_eq]
    exact (h.log { s with contexts := _, writers := _ } _).trans (h.emitted s _ _)

/-! ## Requests and programs -/

theorem diagnostic (d : Diagnostic) : (keeping part).Keeps (logDiagnostic d) := by
  refine keeping_modify fun s => ?_
  split
  · exact h.log s _
  · rfl

/-- A request leaves it as it is, if the listener does. -/
theorem request {listener : Diagnostic → Action Unit} (hlistener : ∀ d, (keeping part).Keeps (listener d))
    (scope : ScopeId) (r : Request) : (keeping part).Keeps (r.perform listener scope) := by
  cases r with
  | report d => exact hlistener d
  | note n => exact keeping_modify fun s => h.notes s _
  | openOutput location name kind sibling => exact h.openOutput ..
  | write id data => exact (h.write id data).bind fun _ _ => .pure _
  | close id => exact h.close id
  | candidates location package kinds recurse => exact keeping_of_look fun _ => rfl
  | resolve location package relativeName =>
    refine keeping_of_look fun s => ?_
    rw [Request.perform, resolve_apply]
    cases fileIn s location package relativeName <;> rfl
  | configure change => exact keeping_configure h.policy change
  | log severity channel text => exact h.logged ..

/-- **A program leaves it as it is**, whatever it ends with. -/
theorem program {listener : Diagnostic → Action Unit} (hlistener : ∀ d, (keeping part).Keeps (listener d))
    (scope : ScopeId) (p : Program α) (found : List Diagnostic) :
    (keeping part).Keeps (p.run listener scope found) := by
  induction p generalizing found with
  | done x => exact .pure _
  | fail f => exact .pure _
  | ask request next ih =>
    exact (Discipline.keeps_attempt (h.request hlistener scope request)).bind fun answer _ => ih answer _

/-- An invocation leaves it as it is, if it is not for the scope that is opened. -/
theorem invoke (hopen : (keeping part).Keeps Emission.openScope) {listener : Diagnostic → Action Unit}
    (hlistener : ∀ d, (keeping part).Keeps (listener d)) (backend : Backend) (options : Options)
    (sources : List File) : (keeping part).Keeps (backend.invoke listener options sources) :=
  hopen.bind fun _ _ => keeping_get.bind fun _ _ => (h.program hlistener ..).bind fun result _ =>
    (keeping_result result.1).bind fun _ _ => (keeping_of_look fun _ => rfl).bind fun _ _ => .pure _

end Untouched

/-! ## Parts that emission leaves alone -/

theorem untouched_overlay : Untouched Session.overlay :=
  ⟨fun _ _ => rfl, fun _ _ => rfl, fun _ _ => rfl, fun _ _ => rfl, fun _ _ _ => rfl, fun _ _ _ _ => rfl⟩

end UnitFoundry.Emission
