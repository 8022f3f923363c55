import UnitFoundry.Emission
import UnitFoundry.Proofs.Lists
import UnitFoundry.Proofs.Operations
import UnitFoundry.Proofs.Registry

/-!
# What the operations of emission come to

The session that each operation on writers, contexts and scopes leads to, given the session it starts in.

* `opened`, `openOutput_apply` — a new context with a writer for its artifact;
* `write_ok`, `write_error` — bytes written to a writer;
* `sealed`, `close_eq`, `close_apply` — a writer that is closed;
* `replace_apply`, `remember_apply` — publication.
-/

namespace UnitFoundry

open Script Text

/-! ## Writers -/

namespace Writer

variable {w v : Writer}

theorem closed_of_write {data : Bytes} (h : w.write data = .ok v) : v.closed = w.closed := by
  unfold write at h
  split at h
  · cases h
  · split at h
    · cases h
      rfl
    · split at h
      all_goals
        cases h
      rfl

theorem closed_of_seek {position : Int} (h : w.seek position = .ok v) : v.closed = w.closed := by
  unfold seek at h
  split at h
  · cases h
  · split at h
    · cases h
    · split at h
      all_goals
        cases h
      rfl

end Writer

/-- A file with its final bytes changes no more. -/
theorem File.isFrozen_freeze (file : File) (data : Bytes) : (file.freeze data).isFrozen = true := rfl

namespace Emission

variable {s t : Session} {id : WriterId} {w : OpenWriter} {c : Context}

/-! ## Opening and writing -/

/-- A new context whose artifact is open for writing. -/
def opened (name : String) : Context :=
  { Context.fresh name with artifact := { File.artifact name with content := .opened } }

/-- A session with one more writer, which has a context of its own. -/
def withOutput (scope : Option ScopeId) (location : Location) (name : String) (sibling : Option File) (s : Session) :
    Session :=
  { s with
    contexts := s.contexts ++ [opened name]
    writers := s.writers ++ [{ context := s.contexts.length, scope }]
    log := record s.level s.log ⟨.debug, .files, outputText location name sibling⟩ }

theorem openOutput_eq (scope : Option ScopeId) (location : Location) (name : String) (sibling : Option File)
    (s : Session) : openOutput scope location name .artifact sibling s =
      .ok s.writers.length (withOutput scope location name sibling s) := by
  have hnew : Action.newContext name s =
      .ok s.contexts.length { s with contexts := s.contexts ++ [Context.fresh name] } := rfl
  have hcontext : (s.contexts ++ [Context.fresh name])[s.contexts.length]? =
      some (Context.fresh name) := List.getElem?_concat_length
  have hopen : (Context.fresh name).artifact.open = .ok (opened name).artifact := rfl
  rw [openOutput, if_neg (by simp), openArtifact, Action.bind_ok hnew,
    Action.bind_ok (Action.logged_apply ..), Action.bind_ok (Action.context_some hcontext), hopen,
    Action.bind_ok (Action.ofExcept_ok _ _)]
  show EStateM.Result.ok _ { s with
    contexts := (s.contexts ++ [Context.fresh name]).modify s.contexts.length _
    writers := _
    log := _ } = _
  rw [modify_concat]
  rfl

/-- One more writer, with a context of its own. -/
theorem openOutput_apply (scope : Option ScopeId) (location : Location) (name : String)
    (sibling : Option File) (s : Session) :
    ∃ log, openOutput scope location name .artifact sibling s = .ok s.writers.length
      { s with
        contexts := s.contexts ++ [opened name]
        writers := s.writers ++ [{ context := s.contexts.length, scope }]
        log } :=
  ⟨_, openOutput_eq scope location name sibling s⟩

theorem writer_some (h : s.writers[id]? = some w) : writer id s = .ok w s := by
  simp [writer, Action.bind_ok (Action.get_apply s), h]

theorem writer_none (h : s.writers[id]? = none) :
    writer id s = .error (.exception "LookupError" "no such writer") s := by
  simp [writer, Action.bind_ok (Action.get_apply s), h]

theorem write_ok {v : Writer} {data : Bytes} (hw : s.writers[id]? = some w)
    (h : w.writer.write data = .ok v) :
    write id data s =
      .ok data.length { s with writers := s.writers.modify id fun o => { o with writer := v } } := by
  rw [write, Action.bind_ok (writer_some hw), h, Action.bind_ok (Action.ofExcept_ok v s)]
  rfl

theorem write_error {f : Failure} {data : Bytes} (hw : s.writers[id]? = some w)
    (h : w.writer.write data = .error f) : write id data s = .error f s := by
  rw [write, Action.bind_ok (writer_some hw), h, Action.bind_error (Action.ofExcept_error f s)]

/-! ## Publication -/

/-- A session in which a context was published. -/
theorem replace_apply {id : ContextId} (hc : s.contexts[id]? = some c)
    (hlinked : ∀ old, s.registry.lookup? c.canonical = some old → old < s.contexts.length) :
    ∃ log, Action.replace id s = .ok (s.registry.lookup? c.canonical)
      { s with registry := s.registry.replace c.canonical id, log } := by
  rw [Action.replace, Action.bind_ok (Action.context_some hc),
    Action.bind_ok (Action.get_apply s), Action.bind_ok (Action.set_apply s _)]
  cases hold : s.registry.lookup? c.canonical with
  | none => exact ⟨_, rfl⟩
  | some old =>
    obtain ⟨previous, hprevious⟩ : ∃ previous, s.contexts[old]? = some previous :=
      ⟨_, List.getElem?_eq_getElem (hlinked old hold)⟩
    have hcontext : Action.context old { s with registry := s.registry.replace c.canonical id } =
        .ok previous { s with registry := s.registry.replace c.canonical id } :=
      Action.context_some hprevious
    exact ⟨_, (Action.bind_ok hcontext).trans (Action.bind_ok (Action.logged_apply ..))⟩

/-- The scopes after a context was published through one of them, or through none. -/
def remembered (scope : Option ScopeId) (name : String) (context : ContextId)
    (scopes : List (List (String × ContextId))) : List (List (String × ContextId)) :=
  match scope with
  | some scope => scopes.modify scope (setEntry name context)
  | none => scopes

theorem getElem?_remembered (scope : Option ScopeId) (name : String) (context : ContextId)
    (scopes : List (List (String × ContextId))) (k : ScopeId) :
    (remembered scope name context scopes)[k]? =
      if scope = some k then scopes[k]?.map (setEntry name context) else scopes[k]? := by
  cases scope with
  | none => rfl
  | some scope =>
    rw [remembered, List.getElem?_modify]
    by_cases h : scope = k
    · simp [h]
    · simp [h]

theorem length_remembered (scope : Option ScopeId) (name : String) (context : ContextId)
    (scopes : List (List (String × ContextId))) :
    (remembered scope name context scopes).length = scopes.length := by
  cases scope with
  | none => rfl
  | some scope => rw [remembered, List.length_modify]

theorem remember_apply (scope : Option ScopeId) (name : String) (context : ContextId) (s : Session) :
    remember scope name context s =
      .ok ⟨⟩ { s with scopes := remembered scope name context s.scopes } := by
  cases scope with
  | none => rfl
  | some scope => rfl

/-! ## Closing -/

/-- A session in which a writer was closed and its artifact frozen, before it is published. -/
def sealed (id : WriterId) (w : OpenWriter) (s : Session) : Session :=
  { s with
    contexts := s.contexts.modify w.context fun c =>
      { c with artifact := c.artifact.freeze w.writer.buffer }
    writers := s.writers.modify id fun o => { o with writer := { w.writer with closed := true } } }

theorem getElem?_sealed (id : WriterId) (hc : s.contexts[w.context]? = some c) :
    (sealed id w s).contexts[w.context]? =
      some { c with artifact := c.artifact.freeze w.writer.buffer } := by
  rw [sealed, List.getElem?_modify_eq, hc]
  rfl

/-- When a writer is closed, its artifact is frozen before anything is published. -/
theorem close_eq (hw : s.writers[id]? = some w) (hopen : w.writer.closed = false)
    (hc : s.contexts[w.context]? = some c) : close id s =
      (do let _ ← Action.replace w.context
          remember w.scope c.qualified w.context : Action Unit) (sealed id w s) := by
  have hnot : ¬ w.writer.closed = true := by
    rw [hopen]
    exact Bool.false_ne_true
  have hfreeze : Action.changeArtifact w.context (·.freeze w.writer.buffer) s = .ok ⟨⟩ _ := rfl
  have hset (u : Session) : setWriter id { w.writer with closed := true } u = .ok ⟨⟩ _ := rfl
  rw [close, Action.bind_ok (writer_some hw), if_neg hnot, Action.bind_ok (Action.context_some hc),
    Action.bind_ok hfreeze, Action.bind_ok (hset _)]
  rfl

/-- A writer that is closed has its artifact frozen and its context published. -/
theorem close_apply (hw : s.writers[id]? = some w) (hopen : w.writer.closed = false)
    (hc : s.contexts[w.context]? = some c)
    (hlinked : ∀ old, s.registry.lookup? c.canonical = some old → old < s.contexts.length) :
    ∃ log, close id s = .ok ⟨⟩
      { sealed id w s with
        registry := s.registry.replace c.canonical w.context
        scopes := remembered w.scope c.qualified w.context s.scopes
        log } := by
  obtain ⟨log, hreplace⟩ := replace_apply (getElem?_sealed id hc) fun old hold => by
    rw [sealed, List.length_modify]
    exact hlinked old hold
  refine ⟨log, ?_⟩
  rw [close_eq hw hopen hc]
  exact (Action.bind_ok hreplace).trans (remember_apply ..)

/-- A writer that is closed already stays as it is. -/
theorem close_of_closed (hw : s.writers[id]? = some w) (hclosed : w.writer.closed = true) :
    close id s = .ok ⟨⟩ s := by
  rw [close, Action.bind_ok (writer_some hw), if_pos hclosed]
  rfl

end Emission

end UnitFoundry
