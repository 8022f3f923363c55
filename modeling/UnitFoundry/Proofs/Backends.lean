import UnitFoundry.Backend.Program
import UnitFoundry.Proofs.Emission.Operations
import UnitFoundry.Proofs.Script.Discipline

/-!
# What backends can do to a session

A backend can do no more than it can ask for: it opens writers, writes and closes them, looks for files,
reports, logs and changes the policy. A contract that allows the steps which these requests consist of is kept
to by every request, and hence by every backend. It may be one for some names, paths and packages only: then
it is kept to by the backends that ask for no others.

* `SameUnits` — sessions with the same contexts, modules, writers, registry, history and side store;
* `Emitting` — a contract that allows the steps of emission;
* `Request.Within`, `Program.Within`, `Backend.Within` — requests for names, paths and packages that it allows;
* `Emitting.keeps_request` — requests keep to it;
* `Emitting.keeps_invoke` — **so do backends**, with all their answers and failures.
-/

namespace UnitFoundry

open Script Text

/-- The files in memory are the same, or one more has been put there. -/
def PutsOne (before after : List (String × File)) : Prop :=
  after = before ∨ ∃ (location : Location) (package relativeName : String) (file : File),
    after = setEntry (UnitName.overlayUri location.label package relativeName) file before

/-- Two sessions differ in nothing that has to do with units, but for a file that may have been put into memory. -/
structure SameUnits (s t : Session) : Prop extends s.Unmoved t where
  contexts : t.contexts = s.contexts
  registry : t.registry = s.registry
  history : t.history = s.history
  modules : t.modules = s.modules
  assigned : t.assigned = s.assigned
  writers : t.writers = s.writers
  overlay : PutsOne s.overlay t.overlay

/-- What belongs to no unit may change. -/
theorem SameUnits.aside (s : Session) (scopes : List (List (String × ContextId))) (notes : List Note) (policy : Policy)
    (log : List Record) : SameUnits s { s with scopes, notes, policy, log } :=
  ⟨⟨rfl, rfl, rfl⟩, rfl, rfl, rfl, rfl, rfl, rfl, .inl rfl⟩

namespace Session.Alike

variable {s t : Session}

theorem withOutput (h : s.Alike t) (scope : Option ScopeId) (location : Location) (name : String)
    (sibling : Option File) : (Emission.withOutput scope location name sibling s).Alike
      (Emission.withOutput scope location name sibling t) :=
  { h with
    contexts := congrArg (· ++ [Emission.opened name]) h.contexts
    writers := by
      show s.writers ++ [{ context := s.contexts.length, scope }] = t.writers ++ _
      rw [h.writers, h.contexts] }

theorem sealed (h : s.Alike t) (id : WriterId) (w : OpenWriter) :
    (Emission.sealed id w s).Alike (Emission.sealed id w t) :=
  { h with
    contexts := congrArg (·.modify w.context fun c => { c with artifact := c.artifact.freeze w.writer.buffer }) h.contexts
    writers := congrArg (·.modify id fun o => { o with writer := { w.writer with closed := true } }) h.writers }

end Session.Alike

/-- A contract that allows what is done when artifacts are emitted, whatever it fails with. It may be one for
the publication of some contexts only, those with a finished artifact among them, and for some names of units
that are opened, some paths that are looked for, and some packages that are listed. -/
structure Emitting extends Onlooker where
  mayPublish : Context → Prop := fun _ => True
  mayOpen : String → Prop := fun _ => True
  mayFind : String → Prop := fun _ => True
  mayList : String → Prop := fun _ => True
  finished : ∀ c : Context, c.artifact.isFrozen = true → mayPublish c := by exact fun _ _ => trivial
  aside : ∀ {s t}, SameUnits s t → inv s → inv t ∧ rel s t
  created : ∀ s name, mayOpen name → inv s →
    inv { s with contexts := s.contexts ++ [Context.fresh name] } ∧
      rel s { s with contexts := s.contexts ++ [Context.fresh name] }
  opened : ∀ s name scope, mayOpen name → inv s →
    inv { s with
      contexts := s.contexts ++ [Emission.opened name]
      writers := s.writers ++ [{ context := s.contexts.length, scope }] } ∧
      rel s { s with
        contexts := s.contexts ++ [Emission.opened name]
        writers := s.writers ++ [{ context := s.contexts.length, scope }] }
  written : ∀ s id w (v : Writer), s.writers[id]? = some w → v.closed = w.writer.closed → inv s →
    inv { s with writers := s.writers.modify id fun o => { o with writer := v } } ∧
      rel s { s with writers := s.writers.modify id fun o => { o with writer := v } }
  sealed : ∀ s id w, s.writers[id]? = some w → w.writer.closed = false → inv s →
    inv (Emission.sealed id w s) ∧ rel s (Emission.sealed id w s)
  published : ∀ s id c, s.contexts[id]? = some c → mayPublish c → inv s →
    inv { s with registry := s.registry.replace c.canonical id } ∧
      rel s { s with registry := s.registry.replace c.canonical id }
  finds : ∀ {s t path}, mayFind path → inv s → inv t → alike s t →
    s.resources.find s.disk path = t.resources.find t.disk path := by exact fun _ _ _ h => h ▸ rfl
  lists : ∀ {s t package} kinds recurse, mayList package → inv s → inv t → alike s t →
    s.resources.list s.disk package kinds recurse = t.resources.list t.disk package kinds recurse := by
    exact fun _ _ _ _ _ h => h ▸ rfl
  lenient : ∀ f, fails f

/-! ## What backends ask for -/

/-- A request is for names, paths and packages that a contract allows. -/
def Request.Within (d : Emitting) : Request → Prop
  | .openOutput _ name _ _ => d.mayOpen name
  | .candidates _ package _ _ => d.mayList package
  | .resolve _ package relativeName => d.mayFind (Overlay.relativePath package relativeName)
  | _ => True

/-- A program makes requests within a contract, whatever it is answered. -/
def Program.Within (d : Emitting) {α : Type} : Program α → Prop
  | .done _ | .fail _ => True
  | .ask request next => request.Within d ∧ ∀ answer, Program.Within d (next answer)

/-- A backend makes requests within a contract, whatever it is given. -/
def Backend.Within (d : Emitting) (backend : Backend) : Prop :=
  ∀ notes options sources, (backend.compile notes options sources).Within d

namespace Emitting

open Discipline

variable {d : Emitting} {α : Type}

/-- A contract that allows all names, paths and packages. -/
structure IsFree (d : Emitting) : Prop where
  opens : ∀ name, d.mayOpen name := by exact fun _ => trivial
  finds : ∀ path, d.mayFind path := by exact fun _ => trivial
  lists : ∀ package, d.mayList package := by exact fun _ => trivial

namespace IsFree

theorem request (h : d.IsFree) (r : Request) : r.Within d := by
  cases r with
  | openOutput _ name => exact h.opens name
  | candidates _ package => exact h.lists package
  | resolve => exact h.finds _
  | report | note | write | close | configure | log => trivial

theorem program (h : d.IsFree) (p : Program α) : p.Within d := by
  induction p with
  | done | fail => trivial
  | ask request next ih => exact ⟨h.request request, ih⟩

theorem backend (h : d.IsFree) (b : Backend) : b.Within d := fun _ _ _ => h.program _

end IsFree

/-! ## Steps -/

/-- In a session, and in all that are like it, an operation goes on as another one after a change of units. -/
inductive GoesAlong (d : Emitting) (act : Action α) (s : Session) : Prop where
  | after (change : Session → Session) (rest : Action α) (hunmoved : ∀ t : Session, t.Unmoved (change t))
    (halike : ∀ t u : Session, t.Alike u → (change t).Alike (change u)) (hrest : d.Keeps rest)
    (h : ∀ t, d.inv t → s.Alike t → act t = rest (change t) ∧ d.inv (change t) ∧ d.rel t (change t))

namespace GoesAlong

variable {act rest : Action α} {s : Session}

theorem stay (hrest : d.Keeps rest) (h : ∀ t, s.Alike t → act t = rest t) : d.GoesAlong act s :=
  .after id rest .refl (fun _ _ => id) hrest fun t ht hst => ⟨h t hst, ht, d.refl t⟩

theorem fail (f : Failure) (h : ∀ t, s.Alike t → act t = .error f t) : d.GoesAlong act s := stay (.throw (d.lenient f)) h

end GoesAlong

/-- How an operation goes on depends on units alone. -/
theorem keeps_of_goesAlong {act : Action α} (h : ∀ s, d.inv s → d.GoesAlong act s) : d.Keeps act := by
  refine .of_goes_along d.same fun s hs => ?_
  obtain ⟨change, rest, hunmoved, halike, hrest, hgoes⟩ := h s hs
  refine ⟨change, rest, hrest, fun t ht hst => ?_⟩
  obtain ⟨heq, hinv, hrel⟩ := hgoes t ht (d.sees hst)
  exact ⟨heq, hinv, hrel, d.along hunmoved halike hst⟩

/-- A change that leaves the units as they are. -/
theorem keeps_aside {act : Action α} (result : Session → α) (change : Session → Session)
    (h : ∀ s, act s = .ok (result s) (change s)) (hsame : ∀ s, SameUnits s (change s))
    (halike : ∀ s t : Session, s.Alike t → result s = result t ∧ (change s).Alike (change t)) : d.Keeps act :=
  keeps_change result change h (fun s => d.aside (hsame s)) (fun s => (hsame s).toUnmoved) halike

theorem keeps_logged (severity : Severity) (channel : Channel) (text : String) :
    d.Keeps (Action.logged severity channel text) :=
  keeps_aside (fun _ => ()) _ (fun _ => rfl)
    (fun s => .aside s _ _ _ _) fun _ _ h => ⟨rfl, { h with }⟩

theorem keeps_logDiagnostic (diagnostic : Diagnostic) : d.Keeps (logDiagnostic diagnostic) := by
  refine keeps_aside (fun _ => ()) _ (fun _ => rfl) (fun s => ?_) fun s t h => ⟨rfl, ?_⟩
  · split
    · exact .aside s _ _ _ _
    · exact ⟨.refl s, rfl, rfl, rfl, rfl, rfl, rfl, .inl rfl⟩
  · split
    · split
      · exact { h with }
      · exact { h with }
    · split
      · exact { h with }
      · exact h

/-- A value, or a failure in its place: it may be any. -/
theorem keeps_result (e : Except Failure α) : d.Keeps (ofExcept e : Action α) :=
  .of_except fun f _ => d.lenient f

/-! ## Contexts and publication -/

theorem keeps_newContext {name : String} (hname : d.mayOpen name) : d.Keeps (Action.newContext name) :=
  keeps_change (fun s => s.contexts.length) (fun s => { s with contexts := s.contexts ++ [Context.fresh name] })
    (fun _ => rfl) (fun s => d.created s name hname) (fun _ => ⟨rfl, rfl, rfl⟩)
    fun _ _ h => ⟨by rw [h.contexts], { h with contexts := by rw [h.contexts] }⟩

/-- What follows a publication depends on the context that was active before. -/
theorem exists_replace (id : ContextId) (c : Context) (before : Option ContextId) :
    ∃ rest : Action (Option ContextId), d.Keeps rest ∧ ∀ t : Session, t.contexts[id]? = some c →
      t.registry.lookup? c.canonical = before →
      Action.replace id t = rest { t with registry := t.registry.replace c.canonical id } := by
  cases before with
  | some old =>
    refine ⟨do
      let previous ← Action.context old
      Action.logged .debug .loading
        ("[registry:replace] " ++ c.canonical ++ ": " ++ previous.qualified ++ " -> " ++ c.qualified)
      pure (some old), ?_, fun t hc hbefore => ?_⟩
    · exact (keeps_context old).bind fun _ _ => (keeps_logged ..).bind fun _ _ => .pure _
    · rw [Action.replace, Action.bind_ok (Action.context_some hc), Action.bind_ok (Action.get_apply t), hbefore,
        Action.bind_ok (Action.set_apply t _)]
  | none =>
    refine ⟨do
      Action.logged .debug .loading ("[registry:add] " ++ c.canonical ++ ": " ++ c.qualified)
      pure none, (keeps_logged ..).bind fun _ _ => .pure _, fun t hc hbefore => ?_⟩
    rw [Action.replace, Action.bind_ok (Action.context_some hc), Action.bind_ok (Action.get_apply t), hbefore,
      Action.bind_ok (Action.set_apply t _)]

theorem keeps_replace (h : ∀ c, d.mayPublish c) (id : ContextId) : d.Keeps (Action.replace id) := by
  refine keeps_of_goesAlong fun s hs => ?_
  cases hc : s.contexts[id]? with
  | none => exact .fail _ fun t hst => Action.bind_error (Action.context_none (hst.contexts ▸ hc))
  | some c =>
    obtain ⟨rest, hrest, hreplace⟩ := exists_replace (d := d) id c (s.registry.lookup? c.canonical)
    refine .after (fun t => { t with registry := t.registry.replace c.canonical id }) rest (fun _ => ⟨rfl, rfl, rfl⟩)
      (fun t u h => { h with registry := congrArg (·.replace c.canonical id) h.registry }) hrest fun t ht hst => ?_
    have hc : t.contexts[id]? = some c := hst.contexts ▸ hc
    exact ⟨hreplace t hc (by rw [hst.registry]), d.published t id c hc (h c) ht⟩

/-! ## Writers and scopes -/

theorem keeps_openScope : d.Keeps Emission.openScope :=
  keeps_aside (fun s => s.scopes.length) (fun s => { s with scopes := s.scopes ++ [[]] }) (fun _ => rfl)
    (fun s => .aside s _ _ _ _)
    fun _ _ h => ⟨by rw [h.scopes], { h with scopes := by rw [h.scopes] }⟩

theorem keeps_openOutput (scope : Option ScopeId) (location : Location) {name : String} (hname : d.mayOpen name)
    (kind : FileKind) (sibling : Option File) :
    d.Keeps (Emission.openOutput scope location name kind sibling) := by
  cases kind with
  | source => exact .throw (d.lenient _)
  | artifact =>
    refine keeps_change (fun s => s.writers.length) (Emission.withOutput scope location name sibling)
      (Emission.openOutput_eq scope location name sibling) (fun s hs => ?_) (fun _ => ⟨rfl, rfl, rfl⟩)
      fun s t h => ⟨by rw [h.writers], h.withOutput scope location name sibling⟩
    let t : Session := { s with
      contexts := s.contexts ++ [Emission.opened name]
      writers := s.writers ++ [{ context := s.contexts.length, scope }] }
    have hlog : SameUnits t (Emission.withOutput scope location name sibling s) := .aside t _ _ _ _
    obtain ⟨ht, hst⟩ := d.opened s name scope hname hs
    obtain ⟨hu, htu⟩ := d.aside hlog ht
    exact ⟨hu, d.trans hst htu⟩

/-- A writer is changed, but neither opened nor closed. -/
theorem keeps_edit (id : WriterId) (change : Writer → Except Failure Writer) (result : α)
    (h : ∀ w v, change w = .ok v → v.closed = w.closed) : d.Keeps (do
      let w ← Emission.writer id
      Emission.setWriter id (← ofExcept (change w.writer))
      pure result : Action α) := by
  refine keeps_of_goesAlong fun s hs => ?_
  cases hw : s.writers[id]? with
  | none => exact .fail _ fun t hst => Action.bind_error (Emission.writer_none (hst.writers ▸ hw))
  | some w =>
    cases hv : change w.writer with
    | error f =>
      refine .fail f fun t hst => ?_
      rw [Action.bind_ok (Emission.writer_some (hst.writers ▸ hw)), hv]
      rfl
    | ok v =>
      refine .after (fun t => { t with writers := t.writers.modify id fun o => { o with writer := v } }) (pure result)
        (fun _ => ⟨rfl, rfl, rfl⟩) (fun t u h => { h with
          writers := congrArg (·.modify id fun o => { o with writer := v }) h.writers }) (.pure result)
        fun t ht hst => ?_
      have hw : t.writers[id]? = some w := hst.writers ▸ hw
      refine ⟨?_, d.written t id w v hw (h w.writer v hv) ht⟩
      rw [Action.bind_ok (Emission.writer_some hw), hv]
      rfl

theorem keeps_write (id : WriterId) (data : Bytes) : d.Keeps (Emission.write id data) :=
  keeps_edit id (·.write data) data.length fun _ _ h => Writer.closed_of_write h

theorem keeps_seek (id : WriterId) (position : Int) : d.Keeps (Emission.seek id position) :=
  keeps_edit id (·.seek position) position.toNat fun _ _ h => Writer.closed_of_seek h

theorem keeps_remember (scope : Option ScopeId) (name : String) (context : ContextId) :
    d.Keeps (Emission.remember scope name context) :=
  keeps_aside (fun _ => ())
    (fun s => { s with scopes := Emission.remembered scope name context s.scopes })
    (Emission.remember_apply scope name context)
    (fun s => .aside s _ _ _ _)
    fun _ _ h => ⟨rfl, { h with scopes := by rw [h.scopes] }⟩

/-- The artifact is frozen and the writer closed before anything else is done. -/
theorem keeps_close (id : WriterId) : d.Keeps (Emission.close id) := by
  refine keeps_of_goesAlong fun s hs => ?_
  cases hw : s.writers[id]? with
  | none => exact .fail _ fun t hst => Action.bind_error (Emission.writer_none (hst.writers ▸ hw))
  | some w =>
    cases hclosed : w.writer.closed with
    | true => exact .stay (.pure ()) fun t hst => Emission.close_of_closed (hst.writers ▸ hw) hclosed
    | false =>
      cases hc : s.contexts[w.context]? with
      | none =>
        refine .fail (.exception "LookupError" "no such context") fun t hst => ?_
        rw [Emission.close, Action.bind_ok (Emission.writer_some (hst.writers ▸ hw)), hclosed]
        exact Action.bind_error (Action.context_none (hst.contexts ▸ hc))
      | some c =>
        obtain ⟨rest, hrest, hreplace⟩ := exists_replace (d := d) w.context
          { c with artifact := c.artifact.freeze w.writer.buffer } (s.registry.lookup? c.canonical)
        refine .after (fun t => { Emission.sealed id w t with registry := t.registry.replace c.canonical w.context })
          (rest >>= fun _ => Emission.remember w.scope c.qualified w.context) (fun _ => ⟨rfl, rfl, rfl⟩)
          (fun t u h => { h.sealed id w with registry := congrArg (·.replace c.canonical w.context) h.registry })
          (hrest.bind fun _ _ => keeps_remember ..) fun t ht hst => ?_
        have hw : t.writers[id]? = some w := hst.writers ▸ hw
        have hc : t.contexts[w.context]? = some c := hst.contexts ▸ hc
        have hfrozen := Emission.getElem?_sealed id hc
        obtain ⟨hu, htu⟩ := d.sealed t id w hw hclosed ht
        obtain ⟨hv, huv⟩ := d.published _ _ _ hfrozen (d.finished _ (File.isFrozen_freeze ..)) hu
        refine ⟨?_, hv, d.trans htu huv⟩
        rw [Emission.close_eq hw hclosed hc]
        exact Action.bind_congr (hreplace (Emission.sealed id w t) hfrozen (by rw [hst.registry]; rfl)) _

/-! ## Requests -/

theorem keeps_setPolicy (policy : Policy → Except Failure Policy) : d.Keeps (do
    let s ← get
    let policy ← ofExcept (policy s.policy)
    set { s with policy } : Action Unit) := by
  refine keeps_of_goesAlong fun s hs => ?_
  cases hpolicy : policy s.policy with
  | error f =>
    refine .fail f fun t hst => ?_
    rw [Action.bind_ok (Action.get_apply t), ← hst.policy, hpolicy]
    rfl
  | ok p =>
    refine .after (fun t => { t with policy := p }) (pure ()) (fun _ => ⟨rfl, rfl, rfl⟩) (fun t u h => { h with policy := rfl })
      (.pure ()) fun t ht hst => ⟨?_, d.aside (.aside t _ _ _ _) ht⟩
    rw [Action.bind_ok (Action.get_apply t), ← hst.policy, hpolicy]
    rfl

theorem keeps_putSource (location : Location) (package relativeName : String) (file : File) :
    d.Keeps (Overlay.putSource location package relativeName file) :=
  keeps_aside (fun _ => ()) (fun s => { s with
    overlay := setEntry (UnitName.overlayUri location.label package relativeName) file s.overlay })
    (fun _ => rfl)
    (fun _ => ⟨⟨rfl, rfl, rfl⟩, rfl, rfl, rfl, rfl, rfl, rfl, .inr ⟨location, package, relativeName, file, rfl⟩⟩)
    fun _ _ h => ⟨rfl, { h with overlay := by rw [h.overlay] }⟩

theorem keeps_note (n : Note) : d.Keeps (modify fun s => { s with notes := s.notes ++ [n] } : Action Unit) :=
  keeps_aside (fun _ => ()) (fun s => { s with notes := s.notes ++ [n] }) (fun _ => rfl)
    (fun s => .aside s _ _ _ _)
    fun _ _ h => ⟨rfl, { h with notes := by rw [h.notes] }⟩

/-- What is found on the resource path, as far as it may be looked for. -/
theorem keeps_find {path : String} (hpath : d.mayFind path) (next : Except Failure (Option File) → Action α)
    (h : ∀ found, d.Keeps (next found)) :
    d.Keeps (get >>= fun s => next ((s.resources.find s.disk path).mapError Failure.raised)) where
  ok {s a t} hs ha := (h _).ok hs ha
  error {s f t} hs ha := (h _).error hs ha
  agree {s t} hs ht hst := by
    show Contract.Agree d.alike (next _ s) (next _ t)
    rw [d.finds hpath hs ht hst]
    exact (h _).agree hs ht hst

theorem keeps_resolveFile (location : Location) {package relativeName : String}
    (hpath : d.mayFind (Overlay.relativePath package relativeName)) :
    d.Keeps (Overlay.resolve location package relativeName) := by
  refine keeps_of_goesAlong fun s hs => ?_
  cases hfile : lookupEntry (UnitName.overlayUri location.label package relativeName) s.overlay with
  | some file =>
    refine .stay (.pure file) fun t hst => ?_
    rw [Overlay.resolve, Action.bind_ok (Action.get_apply t), ← hst.overlay, hfile]
  | none =>
    refine .stay (keeps_find hpath (fun found => ofExcept found >>= fun file =>
      file.elim (throw (.error (.fileNotFound (Overlay.relativePath package relativeName) location.label))) pure)
      fun found => (keeps_result found).bind fun file _ => ?_) fun t hst => ?_
    · cases file with
      | some file => exact .pure file
      | none => exact .throw (d.lenient _)
    · rw [Overlay.resolve, Action.bind_ok (Action.get_apply t), Action.bind_ok (Action.get_apply t), ← hst.overlay,
        hfile]
      dsimp only
      rcases t.resources.find t.disk (Overlay.relativePath package relativeName) with _ | _ | _ <;> rfl

theorem keeps_candidates (location : Location) {package : String} (hpackage : d.mayList package)
    (kinds : List FileKind) (recurse : Bool) : d.Keeps (Overlay.candidates location package kinds recurse) := by
  refine .of_look (fun s => .ok (Overlay.candidatesIn s location package kinds recurse)) (fun _ => rfl)
    (fun s f hf => by cases hf) fun {s t} hs ht hst => congrArg Except.ok ?_
  have halike := d.sees hst
  unfold Overlay.candidatesIn Overlay.overlayFiles Overlay.activeArtifacts
  rw [d.lists kinds recurse hpackage hs ht hst, halike.contexts, halike.registry, halike.overlay]

/-- **Requests keep to what allows the steps of emission.** -/
theorem keeps_request {listener : Diagnostic → Action Unit} (h : ∀ x, d.Keeps (listener x))
    (scope : ScopeId) {r : Request} (hr : r.Within d) : d.Keeps (r.perform listener scope) := by
  cases r with
  | report x => exact h x
  | note n => exact keeps_note n
  | openOutput location name kind sibling => exact keeps_openOutput _ _ hr ..
  | write id data => exact (keeps_write id data).bind fun _ _ => .pure ()
  | close id => exact keeps_close id
  | candidates location package kinds recurse => exact keeps_candidates _ hr ..
  | resolve location package relativeName => exact keeps_resolveFile _ hr
  | configure change => exact keeps_setPolicy (·.configure change)
  | log severity channel text => exact keeps_logged ..

/-! ## Programs and backends -/

theorem keeps_run {listener : Diagnostic → Action Unit} (h : ∀ x, d.Keeps (listener x))
    (scope : ScopeId) {p : Program α} (hp : p.Within d) (found : List Diagnostic) :
    d.Keeps (p.run listener scope found) := by
  induction p generalizing found with
  | done x => exact .pure _
  | fail failure => exact .pure _
  | ask request next ih =>
    exact (keeps_attempt (keeps_request h scope hp.1)).bind fun answer _ => ih answer (hp.2 answer) _

/-- **Backends keep to what allows the steps of emission.** -/
theorem keeps_invoke {listener : Diagnostic → Action Unit} (h : ∀ x, d.Keeps (listener x))
    {backend : Backend} (hbackend : backend.Within d) (options : Options) (sources : List File) :
    d.Keeps (backend.invoke listener options sources) := by
  refine keeps_openScope.bind fun scope _ =>
    keeps_seeing (fun s => ?_) fun _ _ halike => by rw [halike.notes]
  refine (keeps_run h scope (hbackend ..) []).bind fun ended _ => (keeps_result _).bind fun succeeded _ => ?_
  exact Contract.Keeps.bind (keeps_seeing (fun _ => .pure _) fun _ _ halike => by rw [halike.scopes])
    fun published _ => .pure _

end Emitting

end UnitFoundry
