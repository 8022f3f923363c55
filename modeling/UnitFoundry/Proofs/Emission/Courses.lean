import UnitFoundry.Proofs.Emission.Standing
import UnitFoundry.Proofs.Session.Reachable

/-!
# What is published while a backend runs

A backend closes writers, its own and, if it knows their numbers, those of others. Meanwhile others may
take steps of emission too: they close the writers of their own calls, before or after the backend
closes its own, and may clear the registry. All of it lands in one registry, while each scope
remembers what was published through it. What they hold afterwards is what was published last.

* `Publication`, `published?` — what the closing of a writer publishes;
* `Course` — a program runs and others take steps in between, from a session to another, with all that
  is published on the way;
* `Emits` — what is found afterwards in the registry and in the scopes;
* `Course.emits` — **whatever others do meanwhile**, the registry and the scopes lead to what was
  published last;
* `course_of_run` — a program that is left alone takes a course without others.
-/

namespace UnitFoundry

open Script Text

/-! ## Publications -/

/-- A context that was published: under which name, and through which scope. -/
structure Publication where
  context : ContextId
  qualified : String
  scope : Option ScopeId
  deriving DecidableEq

namespace Publication

/-- The contexts that were published, each with its canonical name. -/
def generations (ps : List Publication) : List (String × ContextId) :=
  ps.map fun p => (UnitName.canonical p.qualified, p.context)

/-- The contexts that were published through a scope, each with its qualified name. -/
def through (scope : ScopeId) (ps : List Publication) : List (String × ContextId) :=
  (ps.filter (·.scope = some scope)).map fun p => (p.qualified, p.context)

variable {ps qs : List Publication} {scope : ScopeId}

theorem generations_append : generations (ps ++ qs) = generations ps ++ generations qs :=
  List.map_append

theorem through_append : through scope (ps ++ qs) = through scope ps ++ through scope qs := by
  rw [through, List.filter_append, List.map_append]
  rfl

/-- What was published under a name was published under its canonical name. -/
theorem isSome_generations {name : String} (h : (lastSet? (through scope ps) name).isSome) :
    (lastSet? (generations ps) (UnitName.canonical name)).isSome := by
  obtain ⟨id, hid⟩ := Option.isSome_iff_exists.1 h
  obtain ⟨p, hp, heq⟩ := List.mem_map.1 (mem_of_lastSet? hid)
  obtain ⟨rfl, rfl⟩ := Prod.mk.inj heq
  exact isSome_lastSet? (List.mem_map.2 ⟨p, (List.mem_filter.1 hp).1, rfl⟩)

end Publication

namespace Emission

/-- What the closing of a writer publishes: its context, unless the writer is closed already. -/
def published? (id : WriterId) (s : Session) : Option Publication :=
  s.writers[id]?.bind fun w =>
    if w.writer.closed then none
    else s.contexts[w.context]?.map fun c => ⟨w.context, c.qualified, w.scope⟩

/-- What a step publishes. -/
def Step.publication? : Step → Session → Option Publication
  | .close id, s => published? id s
  | _, _ => none

end Emission

/-- What a request publishes. -/
def Request.publication? : Request → Session → Option Publication
  | .close id, s => Emission.published? id s
  | _, _ => none

namespace Emission

/-! ## Courses -/

/-- A program runs from a session to another, and before each of its requests and at the end others may
take steps of a kind. All publications on the way are listed in order. -/
inductive Course (others : Step → Prop) (scope : ScopeId) :
    Program α → Session → List Publication → Except Failure α → Session → Prop where
  | done (x : α) (s : Session) : Course others scope (.done x) s [] (.ok x) s
  | fail (f : Failure) (s : Session) : Course others scope (.fail f) s [] (.error f) s
  | ask {request : Request} {next : Except Failure (Response request) → Program α} {s t u : Session}
      {answer : Except Failure (Response request)} {ps : List Publication} {result : Except Failure α}
      (h : Action.attempt (request.perform logDiagnostic scope) s = .ok answer t)
      (rest : Course others scope (next answer) t ps result u) :
      Course others scope (.ask request next) s ((request.publication? s).toList ++ ps) result u
  | meanwhile {p : Program α} {s u : Session} {ps : List Publication} {result : Except Failure α}
      (step : Step) (h : others step)
      (rest : Course others scope p (s.after step.perform) ps result u) :
      Course others scope p s ((step.publication? s).toList ++ ps) result u

/-- What a program that is left alone publishes, in order. -/
def publications (scope : ScopeId) : Program α → Session → List Publication
  | .done _, _ => []
  | .fail _, _ => []
  | .ask request next, s =>
    (request.publication? s).toList ++
      match Action.attempt (request.perform logDiagnostic scope) s with
      | .ok answer t => publications scope (next answer) t
      | .error _ _ => []

/-- A program that is left alone takes a course without others. -/
theorem course_of_run {scope : ScopeId} {p : Program α} {found all : List Diagnostic}
    {result : Except Failure α} {s t : Session}
    (h : p.run logDiagnostic scope found s = .ok (result, all) t) :
    Course (fun _ => False) scope p s (publications scope p s) result t := by
  induction p generalizing found s with
  | done x =>
    cases h
    exact .done x _
  | fail failure =>
    cases h
    exact .fail failure _
  | ask request next ih =>
    obtain ⟨answer, u, hanswer, hrest⟩ := Action.bind_eq_ok.1 h
    rw [publications, hanswer]
    exact .ask hanswer (ih answer hrest)

/-! ## What is found afterwards -/

/-- What is found in the registry and in the scopes of a session after publications: what was published
last, else what was there before. The registry may have been cleared, if this is allowed. -/
structure Emits (isCleared : Prop) (ps : List Publication) (s t : Session) : Prop where
  active : ∀ canonical,
    t.registry.lookup? canonical =
        (lastSet? (Publication.generations ps) canonical).or (s.registry.lookup? canonical) ∨
      isCleared ∧ t.registry.lookup? canonical = none
  emitted : ∀ (scope : ScopeId) found, s.scopes[scope]? = some found → ∃ later, t.scopes[scope]? = some later ∧
    ∀ name, lookupEntry name later =
      (lastSet? (Publication.through scope ps) name).or (lookupEntry name found)

namespace Emits

variable {isCleared : Prop} {ps qs : List Publication} {s t u : Session}

/-- Nothing is published, and no scope is different. -/
theorem quiet (hr : t.registry = s.registry)
    (hs : ∀ (scope : ScopeId) found, s.scopes[scope]? = some found → t.scopes[scope]? = some found) :
    Emits isCleared [] s t where
  active canonical := by
    rw [hr]
    exact .inl rfl
  emitted scope found hfound := ⟨found, hs scope found hfound, fun _ => rfl⟩

theorem refl (s : Session) : Emits isCleared [] s s := quiet rfl fun _ _ h => h

theorem trans (h : Emits isCleared ps s t) (h' : Emits isCleared qs t u) :
    Emits isCleared (ps ++ qs) s u where
  active canonical := by
    rw [Publication.generations_append, lastSet?_append, Option.or_assoc]
    rcases h'.active canonical with hu | hu
    · rcases h.active canonical with ht | ⟨hcleared, ht⟩
      · rw [hu, ht]
        exact .inl rfl
      · -- the registry was cleared, so that later publications decide
        rw [hu, ht, Option.or_none]
        cases lastSet? (Publication.generations qs) canonical with
        | none => exact .inr ⟨hcleared, rfl⟩
        | some id => exact .inl rfl
    · exact .inr hu
  emitted scope found hfound := by
    obtain ⟨later, hlater, hlast⟩ := h.emitted scope found hfound
    obtain ⟨latest, hlatest, hlast'⟩ := h'.emitted scope later hlater
    refine ⟨latest, hlatest, fun name => ?_⟩
    rw [hlast', hlast, Publication.through_append, lastSet?_append, Option.or_assoc]

theorem mono {isCleared' : Prop} (h : Emits isCleared ps s t) (hc : isCleared → isCleared') :
    Emits isCleared' ps s t where
  active canonical := (h.active canonical).imp_right fun hcleared => ⟨hc hcleared.1, hcleared.2⟩
  emitted := h.emitted

/-- One context is published. -/
theorem publish {p : Publication}
    (hr : t.registry = s.registry.replace (UnitName.canonical p.qualified) p.context)
    (hs : t.scopes = remembered p.scope p.qualified p.context s.scopes) :
    Emits isCleared [p] s t where
  active canonical := by
    have hlast : lastSet? (Publication.generations [p]) canonical =
        if canonical = UnitName.canonical p.qualified then some p.context else none :=
      lastSet?_concat [] _ canonical _
    rw [hr, Registry.lookup?_replace, hlast]
    by_cases hname : canonical = UnitName.canonical p.qualified
    · simp [hname]
    · simp [hname]
  emitted scope found hfound := by
    rw [hs, getElem?_remembered, hfound]
    by_cases hscope : p.scope = some scope
    · refine ⟨_, if_pos hscope, fun name => ?_⟩
      have hthrough : Publication.through scope [p] = [] ++ [(p.qualified, p.context)] := by
        simp [Publication.through, hscope]
      rw [lookupEntry_setEntry, hthrough, lastSet?_concat]
      by_cases hname : name = p.qualified
      · simp [hname]
      · simp [hname, lastSet?]
    · refine ⟨found, if_neg hscope, fun name => ?_⟩
      have hthrough : Publication.through scope [p] = [] := by simp [Publication.through, hscope]
      rw [hthrough]
      rfl

/-- A slot that is filled leads to what was published last. -/
theorem lookup?_eq (h : Emits isCleared ps s t) {canonical : String}
    (hpublished : (lastSet? (Publication.generations ps) canonical).isSome)
    (hfilled : (t.registry.lookup? canonical).isSome) :
    t.registry.lookup? canonical = lastSet? (Publication.generations ps) canonical := by
  rcases h.active canonical with ht | ⟨-, ht⟩
  · rw [ht]
    exact Option.or_of_isSome hpublished
  · rw [ht] at hfilled
    cases hfilled

end Emits

/-! ## One request, one step -/

/-- An operation leaves a session behind, whatever it ends with. -/
def Leaves (act : Action α) (s t : Session) : Prop := ∃ result, Action.attempt act s = .ok result t

theorem Leaves.ok {act : Action α} {s t : Session} {a : α} (h : act s = .ok a t) : Leaves act s t :=
  ⟨_, Action.attempt_ok h⟩

theorem Leaves.error {act : Action α} {s t : Session} {f : Failure} (h : act s = .error f t) :
    Leaves act s t :=
  ⟨_, Action.attempt_error h⟩

/-- What an operation goes on as leaves the same session behind. -/
theorem Leaves.of_goes_on {act rest : Action α} {s t u : Session} (h : act s = rest t)
    (hrest : Leaves rest t u) : Leaves act s u := by
  unfold Leaves Action.attempt
  rw [h]
  exact hrest

/-- It leaves one session behind. -/
theorem Leaves.unique {act : Action α} {s t u : Session} (h : Leaves act s t) (h' : Leaves act s u) :
    t = u := by
  obtain ⟨result, h⟩ := h
  obtain ⟨result', h'⟩ := h'
  exact (EStateM.Result.ok.inj (h.symm.trans h')).2

theorem leaves_after (act : Action Unit) (s : Session) : Leaves act s (s.after act) := by
  unfold Session.after
  cases ha : act s with
  | ok a t => exact .ok ha
  | error f t => exact .error ha

/-- What an operation keeps to holds of the session it leaves behind. -/
theorem Leaves.kept {c : Contract Session} {act : Action α} {s t : Session} (h : Leaves act s t)
    (hkeeps : c.Keeps act) (hs : c.inv s) : c.inv t ∧ c.rel s t := by
  obtain ⟨result, h⟩ := h
  exact (Discipline.keeps_attempt hkeeps).ok hs h

theorem Leaves.then {act : Action α} {s t : Session} (h : Leaves act s t) (next : α → Action β)
    (hnext : ∀ a, ∃ b, next a t = .ok b t) : Leaves (act >>= next) s t := by
  obtain ⟨result, h⟩ := h
  cases ha : act s with
  | ok a u =>
    obtain ⟨-, rfl⟩ := EStateM.Result.ok.inj ((Action.attempt_ok ha).symm.trans h)
    obtain ⟨b, hb⟩ := hnext a
    exact .ok ((Action.bind_ok ha).trans hb)
  | error f u =>
    obtain ⟨-, rfl⟩ := EStateM.Result.ok.inj ((Action.attempt_error ha).symm.trans h)
    exact .error (Action.bind_error ha)

variable {s t : Session}

/-- The closing of a writer publishes its context, or does nothing. -/
theorem close_emits (hs : s.Sound) (id : WriterId) :
    ∃ t, Leaves (close id) s t ∧ Emits False (published? id s).toList s t := by
  cases hw : s.writers[id]? with
  | none =>
    have hnone : published? id s = none := by rw [published?, hw]; rfl
    rw [hnone]
    exact ⟨s, .error (Action.bind_error (writer_none hw)), .refl s⟩
  | some w =>
    by_cases hclosed : w.writer.closed
    · have hnone : published? id s = none := by simp [published?, hw, hclosed]
      rw [hnone]
      exact ⟨s, .ok (close_of_closed hw hclosed), .refl s⟩
    · cases hc : s.contexts[w.context]? with
      | none =>
        have hnone : published? id s = none := by simp [published?, hw, hc]
        rw [hnone]
        have hclose : close id s = .error (.exception "LookupError" "no such context") s := by
          rw [close, Action.bind_ok (writer_some hw), if_neg hclosed,
            Action.bind_error (Action.context_none hc)]
        exact ⟨s, .error hclose, .refl s⟩
      | some c =>
        have hsome : published? id s = some ⟨w.context, c.qualified, w.scope⟩ := by
          simp [published?, hw, hclosed, hc]
        have hopen : w.writer.closed = false := Bool.eq_false_iff.2 hclosed
        obtain ⟨log, hclose⟩ := close_apply hw hopen hc (hs.linked c.canonical)
        rw [hsome]
        exact ⟨_, .ok hclose, .publish rfl rfl⟩

/-- The opening of a writer adds a context and a writer at most. -/
theorem openOutput_leaves (scope : Option ScopeId) (location : Location) (name : String)
    (kind : FileKind) (sibling : Option File) (s : Session) :
    ∃ contexts writers log, Leaves (openOutput scope location name kind sibling) s
      { s with contexts, writers, log } := by
  by_cases hkind : kind = .artifact
  · subst hkind
    obtain ⟨log, hopen⟩ := openOutput_apply scope location name sibling s
    exact ⟨_, _, log, .ok hopen⟩
  · have hopen : openOutput scope location name kind sibling s =
        .error (.error (.notAnArtifact kind.label name)) s := by
      rw [openOutput, if_pos hkind]
      rfl
    exact ⟨s.contexts, s.writers, s.log, .error hopen⟩

/-- What is written changes a writer at most. -/
theorem write_leaves (id : WriterId) (data : Bytes) (s : Session) :
    ∃ writers, Leaves (write id data) s { s with writers } := by
  cases hw : s.writers[id]? with
  | none => exact ⟨s.writers, .error (Action.bind_error (writer_none hw))⟩
  | some w =>
    cases hwrite : w.writer.write data with
    | ok v => exact ⟨_, .ok (write_ok hw hwrite)⟩
    | error f => exact ⟨s.writers, .error (write_error hw hwrite)⟩

/-- What a search for a file comes to in a session. -/
def fileIn (s : Session) (location : Location) (package relativeName : String) : Except Failure File :=
  match lookupEntry (UnitName.overlayUri location.label package relativeName) s.overlay with
  | some file => .ok file
  | none =>
    match s.resources.find s.disk (Overlay.relativePath package relativeName) with
    | .ok (some file) => .ok file
    | .ok none => .error (.error
      (.fileNotFound (Overlay.relativePath package relativeName) location.label))
    | .error why => .error (.raised why)

/-- The search for a file changes nothing. -/
theorem resolve_apply (location : Location) (package relativeName : String) (s : Session) :
    Overlay.resolve location package relativeName s =
      (ofExcept (fileIn s location package relativeName) : Action File) s := by
  rw [Overlay.resolve, Action.bind_ok (Action.get_apply s), fileIn]
  cases lookupEntry (UnitName.overlayUri location.label package relativeName) s.overlay with
  | some file => rfl
  | none =>
    dsimp only
    cases s.resources.find s.disk (Overlay.relativePath package relativeName) with
    | error why => rfl
    | ok found =>
      cases found with
      | some file => rfl
      | none => rfl

theorem attempt_ofExcept (e : Except Failure α) (s : Session) :
    Action.attempt (ofExcept e : Action α) s = .ok e s := by
  cases e with
  | ok a => rfl
  | error f => rfl

/-- A change of the policy changes nothing else. -/
theorem configure_leaves (change : Change) (s : Session) :
    ∃ policy, Leaves (do
      let s ← get
      let policy ← ofExcept (s.policy.configure change)
      set { s with policy } : Action Unit) s { s with policy } := by
  cases h : s.policy.configure change with
  | error f =>
    refine ⟨s.policy, .of_goes_on (Action.bind_ok (Action.get_apply s)) ?_⟩
    rw [h]
    exact .error rfl
  | ok policy =>
    refine ⟨policy, .of_goes_on (Action.bind_ok (Action.get_apply s)) ?_⟩
    rw [h]
    exact .ok rfl

/-- **One request.** What it publishes is what is found afterwards. -/
theorem request_emits (hs : s.Sound) (scope : ScopeId) (r : Request) :
    ∃ t, Leaves (r.perform logDiagnostic scope) s t ∧ Emits False (r.publication? s).toList s t := by
  cases r with
  | report d =>
    refine ⟨_, .ok (Action.modify_apply _ s), .quiet ?_ fun k found hfound => ?_⟩
    · split <;> rfl
    · split <;> exact hfound
  | note n => exact ⟨_, .ok (Action.modify_apply _ s), .quiet rfl fun _ _ h => h⟩
  | openOutput location name kind sibling =>
    obtain ⟨contexts, writers, log, hopen⟩ :=
      openOutput_leaves (some scope) location name kind sibling s
    exact ⟨_, hopen, .quiet rfl fun _ _ h => h⟩
  | write id data =>
    obtain ⟨writers, hwrite⟩ := write_leaves id data s
    exact ⟨_, hwrite.then _ fun _ => ⟨_, rfl⟩, .quiet rfl fun _ _ h => h⟩
  | close id => exact close_emits hs id
  | candidates location package kinds recurse =>
    exact ⟨s, .ok (a := _) rfl, .refl s⟩
  | resolve location package relativeName =>
    refine ⟨s, .of_goes_on (resolve_apply location package relativeName s) ?_, .refl s⟩
    exact ⟨_, attempt_ofExcept _ s⟩
  | configure change =>
    obtain ⟨policy, hconfigure⟩ := configure_leaves change s
    exact ⟨_, hconfigure, .quiet rfl fun _ _ h => h⟩
  | log severity channel text =>
    exact ⟨_, .ok (Action.logged_apply severity channel text s), .quiet rfl fun _ _ h => h⟩

/-- Steps keep to what allows compilations, if it allows that the registry is cleared: they publish by
writers only. -/
theorem Step.keeps_perform (d : Compiling) (hclear : ∀ s, d.inv s →
      d.inv { s with registry := {} } ∧ d.rel s { s with registry := {} })
    (step : Step) (hfree : d.toEmitting.IsFree := by exact {}) : d.Keeps step.perform := by
  have hoperation (operation : Operation) (h : operation.isRegular = true) : d.Keeps operation.perform :=
    Session.keeps_perform d hclear operation (.inl h) (hfree.operation operation)
  cases step with
  | openScope => exact hoperation .openScope rfl
  | openOutput scope location name sibling =>
    refine Discipline.keeps_seeing (fun s => ?_) fun s t h => by rw [h.scopes]
    split
    · exact hoperation (.openOutput scope location name .artifact sibling) rfl
    · exact Discipline.keeps_exception _ _
  | write id data => exact hoperation (.write id data) rfl
  | close id => exact hoperation (.close id) rfl
  | drop id => exact .pure ()
  | clear => exact hoperation .clear rfl

/-- **One step.** The registry is cleared only by the step that does so. -/
theorem step_emits (hs : s.Sound) (step : Step) : ∃ t, Leaves step.perform s t ∧
    Emits step.isClear (step.publication? s).toList s t := by
  cases step with
  | openScope =>
    refine ⟨_, .ok rfl, .quiet rfl fun k found hfound => ?_⟩
    exact (List.getElem?_append_left (List.getElem?_eq_some_iff.1 hfound).1).trans hfound
  | openOutput scope location name sibling =>
    rw [Step.perform]
    by_cases hscope : scope.all (· < s.scopes.length)
    · obtain ⟨contexts, writers, log, hopen⟩ :=
        openOutput_leaves scope location name .artifact sibling s
      have hperform : Leaves (do
          let _ ← openOutput scope location name .artifact sibling) s
          { s with contexts, writers, log } := hopen.then _ fun _ => ⟨_, rfl⟩
      refine ⟨{ s with contexts, writers, log }, .of_goes_on (Action.bind_ok (Action.get_apply s)) ?_,
        .quiet rfl fun _ _ h => h⟩
      rw [if_pos hscope]
      exact hperform
    · refine ⟨s, .of_goes_on (Action.bind_ok (Action.get_apply s)) ?_, .refl s⟩
      rw [if_neg hscope]
      exact .error rfl
  | write id data =>
    obtain ⟨writers, hwrite⟩ := write_leaves id data s
    exact ⟨_, hwrite.then _ fun _ => ⟨_, rfl⟩, .quiet rfl fun _ _ h => h⟩
  | close id =>
    obtain ⟨t, hclose, hemits⟩ := close_emits hs id
    exact ⟨t, hclose, hemits.mono False.elim⟩
  | drop id => exact ⟨s, .ok rfl, .refl s⟩
  | clear =>
    refine ⟨_, .ok rfl, fun canonical => .inr ⟨rfl, rfl⟩, fun k found hfound => ?_⟩
    exact ⟨found, hfound, fun _ => rfl⟩

/-! ## Whole courses -/

variable {others : Step → Prop} {scope : ScopeId} {α : Type} {p : Program α} {ps : List Publication}
  {result : Except Failure α}

/-- **Whatever others do meanwhile**, the registry and the scopes lead to what was published last. Only if
others clear the registry may a slot be empty. -/
theorem Course.emits (h : Course others scope p s ps result t) (hs : s.Sound) :
    t.Sound ∧ Emits (∃ step, others step ∧ step.isClear) ps s t := by
  induction h with
  | done x s => exact ⟨hs, .refl s⟩
  | fail f s => exact ⟨hs, .refl s⟩
  | @ask request next s u t answer ps result hanswer _ ih =>
    obtain ⟨v, hleaves, hemits⟩ := request_emits hs scope request
    obtain rfl := hleaves.unique ⟨answer, hanswer⟩
    have hkeeps := Session.soundEmitting.keeps_request Session.soundEmitting.keeps_logDiagnostic
      scope (Emitting.IsFree.request {} request)
    obtain ⟨ht, hrest⟩ := ih (hleaves.kept hkeeps hs).1
    exact ⟨ht, (hemits.mono False.elim).trans hrest⟩
  | @meanwhile p s t ps result step hstep _ ih =>
    obtain ⟨u, hleaves, hemits⟩ := step_emits hs step
    obtain rfl := hleaves.unique (leaves_after step.perform s)
    obtain ⟨ht, hrest⟩ := ih (hleaves.kept (step.keeps_perform Session.soundCompiling Session.sound_clear) hs).1
    exact ⟨ht, (hemits.mono fun hclear => ⟨step, hstep, hclear⟩).trans hrest⟩

end Emission

end UnitFoundry
