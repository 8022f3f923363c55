import UnitFoundry.Proofs.Contract
import UnitFoundry.Proofs.Operations
import UnitFoundry.Proofs.Session.Alike
import UnitFoundry.Script.Run

/-!
# What scripts can do to a session

A script does four things to the session by itself: it makes and changes objects, it counts what it
makes, it binds names in its own module, and it sets names in others. Everything else it does through
its engine, which loads units and calls values. So whatever allows these four steps, and is kept to by
the engine, is kept to by every script.

* `Own` — the steps that a script takes by itself;
* `Discipline` — a contract that allows them, in which modules a body may run;
* `Discipline.Fits` — the frames in which a discipline allows something to run;
* `Discipline.Governs` — an engine whose loads and calls keep to a discipline;
* `Discipline.running` — the discipline as a contract on what runs, frame and all.

That scripts keep to it is shown function by function, in the modules that follow.
-/

namespace UnitFoundry.Script

/-- A step that a script takes by itself, if it may bind names in some modules only. -/
inductive Own (mayBind : ModuleId → Prop) : Session → Session → Prop where
  | objects (s : Session) (o : Array Object) : Own mayBind s { s with objects := o }
  | made (s : Session) (n : Nat) : Own mayBind s { s with made := n }
  | bound (s : Session) (id : ModuleId) (name : String) (value : Value) (h : mayBind id) :
    Own mayBind s { s with
      modules := s.modules.modify id fun m => { m with names := setEntry name value m.names } }
  | assigned (s : Session) (id : ModuleId) (name : String) (value : Value) :
    Own mayBind s { s with
      modules := s.modules.modify id fun m => { m with names := setEntry name value m.names }
      assigned := s.assigned ++ [id] }

/-- A contract on sessions that allows the steps which scripts take by themselves. It may be one for
the bodies of some modules only. -/
structure Discipline extends Onlooker where
  mayBind : ModuleId → Prop := fun _ => True
  own : ∀ {s t}, Own mayBind s t → inv s → inv t ∧ rel s t

namespace Discipline

/-- The loads and calls of an engine keep to a discipline. -/
structure Governs (d : Discipline) (engine : Engine) : Prop where
  load : ∀ id, d.Keeps (engine.load id)
  call : ∀ f arguments, d.Keeps (engine.call f arguments)

attribute [grind ←] Governs.load Governs.call

variable {d : Discipline} {α β : Type} {engine : Engine}

/-! ## Operations on the session -/

section Reading

variable {c : Contract Session} {o : Onlooker}

@[grind ←]
theorem keeps_exception (kind message : String) :
    c.Keeps (Action.exception kind message : Action α) :=
  .throw (c.raised _)

/-- What is done with the session depends on its units alone. -/
theorem keeps_seeing {next : Session → Action α} (h : ∀ s, o.Keeps (next s))
    (hnext : ∀ s t, s.Alike t → next s = next t) : o.Keeps (get >>= next) where
  ok {s a t} hs ha := (h s).ok hs ha
  error {s f t} hs ha := (h s).error hs ha
  agree {s t} hs ht hst := by
    show Contract.Agree o.alike (next s s) (next t t)
    rw [hnext s t (o.sees hst)]
    exact (h t).agree hs ht hst

/-- What looks up one part of the session either finds it or raises an exception. -/
theorem keeps_of_found {act : Action α} {r : Raised} (look : Session → Option α)
    (found : ∀ s a, look s = some a → act s = .ok a s)
    (missing : ∀ s, look s = none → act s = .error (.raised r) s)
    (hlook : ∀ s t, s.Alike t → look s = look t) : o.Keeps act := by
  refine .of_look (fun s => (look s).elim (.error (.raised r)) .ok) (fun s => ?_) (fun s f hf => ?_)
    fun _ _ hst => ?_
  · cases h : look s with
    | none => exact missing s h
    | some a => exact found s a h
  · cases h : look s with
    | none =>
      rw [h] at hf
      cases hf
      exact o.raised r
    | some a =>
      rw [h] at hf
      cases hf
  · rw [hlook _ _ (o.sees hst)]

@[grind ←]
theorem keeps_context (id : ContextId) : o.Keeps (Action.context id) :=
  keeps_of_found (fun s => s.contexts[id]?) (fun _ _ => Action.context_some)
    (fun _ => Action.context_none) fun _ _ h => by rw [h.contexts]

@[grind ←]
theorem keeps_module (id : ModuleId) : o.Keeps (Action.module id) :=
  keeps_of_found (fun s => s.modules[id]?) (fun _ _ => Action.module_some)
    (fun _ => Action.module_none) fun _ _ h => by rw [h.modules]

@[grind ←]
theorem keeps_object (id : ObjectId) : o.Keeps (Action.object id) :=
  keeps_of_found (fun s => s.objects[id]?) (fun _ _ => Action.object_some)
    (fun _ => Action.object_none) fun _ _ h => by rw [h.objects]

@[grind ←]
theorem keeps_object? (value : Value) : o.Keeps (Action.object? value) := by
  unfold Action.object?
  grind

@[grind ←]
theorem keeps_find (name : String) : o.Keeps (Action.find name) :=
  keeps_seeing (fun _ => .pure _) fun _ _ h => by rw [h.registry]

@[grind ←]
theorem keeps_lookup (canonical : String) : o.Keeps (Action.lookup canonical) :=
  keeps_seeing (fun _ => .pure _) fun _ _ h => by rw [h.registry]

/-- A change of units, which does the same to sessions that are alike. -/
theorem keeps_change {act : Action α} (result : Session → α) (change : Session → Session)
    (h : ∀ s, act s = .ok (result s) (change s))
    (hinv : ∀ s, o.inv s → o.inv (change s) ∧ o.rel s (change s)) (hunmoved : ∀ s : Session, s.Unmoved (change s))
    (halike : ∀ s t : Session, s.Alike t → result s = result t ∧ (change s).Alike (change t)) : o.Keeps act :=
  .of_change result change h hinv fun s t _ _ hst =>
    ⟨(halike s t (o.sees hst)).1, o.along hunmoved (fun s t hst => (halike s t hst).2) hst⟩

/-- What an attempt gives in place of a value is a failure that the contract allows. -/
@[grind →]
theorem fails_of_gives_attempt {act : Action α} {f : Failure}
    (h : c.Gives (Action.attempt act) (.error f)) (ha : c.Keeps act) : c.fails f := by
  obtain ⟨s, t, hs, h⟩ := h
  simp only [Action.attempt] at h
  cases hr : act s with
  | ok b u => simp [hr] at h
  | error e u =>
    simp only [hr, EStateM.Result.ok.injEq, Except.error.injEq] at h
    obtain ⟨rfl, rfl⟩ := h
    exact (ha.error hs hr).2.2

@[grind ←]
theorem keeps_attempt {act : Action α} (h : c.Keeps act) : c.Keeps (Action.attempt act) where
  ok {s r t} hs ha := by
    simp only [Action.attempt] at ha
    cases hr : act s with
    | ok b u =>
      simp only [hr, EStateM.Result.ok.injEq] at ha
      exact ha.2 ▸ h.ok hs hr
    | error e u =>
      simp only [hr, EStateM.Result.ok.injEq] at ha
      have ended := h.error hs hr
      exact ha.2 ▸ ⟨ended.1, ended.2.1⟩
  error {s f t} hs ha := by
    simp only [Action.attempt] at ha
    cases hr : act s <;> simp [hr] at ha
  agree {s t} hs ht hst := by
    have hagree := h.agree hs ht hst
    simp only [Action.attempt]
    generalize act s = r, act t = r' at hagree
    cases hagree with
    | ok huv => exact .ok huv
    | error huv => exact .ok huv

end Reading

/-- A step that a script takes by itself, in sessions that are not told apart. -/
theorem keeps_own {act : Action α} (result : Session → α) (change : Session → Session)
    (h : ∀ s, act s = .ok (result s) (change s)) (hown : ∀ s, Own d.mayBind s (change s))
    (hunmoved : ∀ s : Session, s.Unmoved (change s))
    (halike : ∀ s t : Session, s.Alike t → result s = result t ∧ (change s).Alike (change t)) : d.Keeps act :=
  keeps_change result change h (fun s => d.own (hown s)) hunmoved halike

@[grind ←]
theorem keeps_newObject (o : Object) : d.Keeps (Action.newObject o) :=
  keeps_own (fun s => .object s.objects.size) (fun s => { s with objects := s.objects.push o })
    (fun _ => rfl) (fun s => .objects s _) (fun _ => ⟨rfl, rfl, rfl⟩) fun _ _ h =>
    ⟨by rw [h.objects], { h with objects := by rw [h.objects] }⟩

@[grind ←]
theorem keeps_changeObject (id : ObjectId) (change : Object → Object) :
    d.Keeps (Action.changeObject id change) :=
  keeps_own (fun _ => ()) (fun s => { s with objects := s.objects.modify id change })
    (fun _ => rfl) (fun s => .objects s _) (fun _ => ⟨rfl, rfl, rfl⟩) fun _ _ h =>
    ⟨rfl, { h with objects := by rw [h.objects] }⟩

@[grind ←]
theorem keeps_newCopy : d.Keeps Action.newCopy :=
  keeps_own (fun s => .fresh s.made) (fun s => { s with made := s.made + 1 })
    (fun _ => rfl) (fun s => .made s _) (fun _ => ⟨rfl, rfl, rfl⟩) fun _ _ h =>
    ⟨by rw [h.made], { h with made := by rw [h.made] }⟩

@[grind ←]
theorem keeps_newText (text : String) : d.Keeps (Action.newText text) := by
  unfold Action.newText
  grind

@[grind ←]
theorem keeps_newWhole (n : Int) : d.Keeps (Action.newWhole n) := by
  unfold Action.newWhole
  grind

@[grind ←]
theorem keeps_bind {id : ModuleId} (h : d.mayBind id) (name : String) (value : Value) :
    d.Keeps (Action.bind id name value) :=
  keeps_own (fun _ => ()) (fun s => { s with
      modules := s.modules.modify id fun m => { m with names := setEntry name value m.names } })
    (fun _ => rfl) (fun s => .bound s id name value h) (fun _ => ⟨rfl, rfl, rfl⟩)
    fun _ _ h => ⟨rfl, { h with modules := by rw [h.modules] }⟩

@[grind ←]
theorem keeps_assign (id : ModuleId) (name : String) (value : Value) :
    d.Keeps (Action.assign id name value) :=
  keeps_own (fun _ => ()) (fun s => { s with
      modules := s.modules.modify id fun m => { m with names := setEntry name value m.names }
      assigned := s.assigned ++ [id] })
    (fun _ => rfl) (fun s => .assigned s id name value) (fun _ => ⟨rfl, rfl, rfl⟩)
    fun _ _ h => ⟨rfl, { h with modules := by rw [h.modules], assigned := by rw [h.assigned] }⟩

/-! ## What runs -/

/-- A frame in which a discipline allows something to run: the failure that is being handled is one that
it allows, for it may be raised again, and names that are bound go where it allows them. -/
structure Fits (d : Discipline) (frame : Frame) : Prop where
  handled : ∀ f, frame.handled = some f → d.fails f
  home : frame.kind = .module → d.mayBind frame.home

/-- A discipline on what runs: the session keeps to it, in a frame that it allows. -/
def running (d : Discipline) : Contract Running where
  inv r := d.inv r.session ∧ d.Fits r.frame
  rel r r' := d.rel r.session r'.session
  fails := d.fails
  alike r r' := d.alike r.session r'.session ∧ r.frame = r'.frame
  refl r := d.refl r.session
  trans h h' := d.trans h h'
  raised := d.raised
  thrown := d.thrown

@[grind =]
theorem running_fails : d.running.fails = d.fails := rfl

@[grind ←]
theorem keeps_lift {act : Action α} (h : d.Keeps act) : d.running.Keeps (Run.lift act) where
  ok {r a r'} hr ha := by
    simp only [Run.lift] at ha
    cases hs : act r.session with
    | ok b s =>
      simp only [hs, EStateM.Result.ok.injEq] at ha
      obtain ⟨rfl, rfl⟩ := ha
      have ended := h.ok hr.1 hs
      exact ⟨⟨ended.1, hr.2⟩, ended.2⟩
    | error f s => simp [hs] at ha
  error {r f r'} hr ha := by
    simp only [Run.lift] at ha
    cases hs : act r.session with
    | ok b s => simp [hs] at ha
    | error g s =>
      simp only [hs, EStateM.Result.error.injEq] at ha
      obtain ⟨rfl, rfl⟩ := ha
      have ended := h.error hr.1 hs
      exact ⟨⟨ended.1, hr.2⟩, ended.2.1, ended.2.2⟩
  agree {r r'} hr hr' hrr' := by
    have hagree := h.agree hr.1 hr'.1 hrr'.1
    simp only [Run.lift]
    generalize act r.session = e, act r'.session = e' at hagree
    cases hagree with
    | ok huv => exact .ok ⟨huv, hrr'.2⟩
    | error huv => exact .error ⟨huv, hrr'.2⟩

/-- What a lifted operation gives, the operation gives. -/
@[grind →]
theorem gives_of_gives_lift {act : Action α} {a : α} (h : d.running.Gives (Run.lift act) a) :
    d.Gives act a := by
  obtain ⟨r, r', hr, h⟩ := h
  simp only [Run.lift] at h
  cases hs : act r.session with
  | ok b s =>
    simp only [hs, EStateM.Result.ok.injEq] at h
    exact ⟨r.session, s, hr.1, h.1 ▸ hs⟩
  | error f s => simp [hs] at h

@[grind ←]
theorem keeps_raise (kind message : String) :
    d.running.Keeps (Run.exception kind message : Run α) :=
  .throw (d.raised _)

/-- What is done with what runs depends on its frame alone, which is one that the discipline allows. -/
theorem keeps_framed {next : Running → Run α} (h : ∀ r, d.Fits r.frame → d.running.Keeps (next r))
    (hnext : ∀ r r', r.frame = r'.frame → next r = next r') : d.running.Keeps (get >>= next) where
  ok {r a r'} hr ha := (h r hr.2).ok hr ha
  error {r f r'} hr ha := (h r hr.2).error hr ha
  agree {r r'} hr hr' hrr' := by
    show Contract.Agree d.running.alike (next r r) (next r' r')
    rw [hnext r r' hrr'.2]
    exact (h r' hr'.2).agree hr hr' hrr'

/-- A change of the frame to one that the discipline allows. -/
theorem keeps_changeFrame (change : Frame → Frame) (h : ∀ frame, d.Fits frame → d.Fits (change frame)) :
    d.running.Keeps (modify fun r : Running => { r with frame := change r.frame }) :=
  .of_change (fun _ => ()) (fun r => { r with frame := change r.frame }) (fun _ => rfl)
    (fun r hr => ⟨⟨hr.1, h r.frame hr.2⟩, d.refl r.session⟩)
    fun _ _ _ _ hrr' => ⟨rfl, hrr'.1, congrArg change hrr'.2⟩

/-- A change of the failure that is being handled. -/
theorem keeps_changeHandled {handled : Option Failure} (h : ∀ f, handled = some f → d.fails f) :
    d.running.Keeps (modify fun r : Running => { r with frame := { r.frame with handled } }) :=
  keeps_changeFrame (fun frame => { frame with handled }) fun _ hfits => ⟨h, hfits.home⟩

@[grind ←]
theorem keeps_handling {f : Failure} {act : Run α} (hf : d.fails f) (h : d.running.Keeps act) :
    d.running.Keeps (Run.handling f act) := by
  refine keeps_framed (fun r hr => ?_) fun r r' hframe => by rw [hframe]
  refine (keeps_changeHandled fun g hg => ?_).bind fun _ _ => ?_
  · cases hg
    exact hf
  refine h.bind fun result _ => ?_
  exact (keeps_changeHandled hr.handled).bind fun _ _ => .pure _

@[grind ←]
theorem keeps_caught {act : Run α} (h : d.running.Keeps act) :
    d.running.Keeps (Run.attempt act) where
  ok {r a r'} hr ha := by
    simp only [Run.attempt] at ha
    cases hs : act r with
    | ok b u =>
      simp only [hs, EStateM.Result.ok.injEq] at ha
      exact ha.2 ▸ h.ok hr hs
    | error e u =>
      simp only [hs, EStateM.Result.ok.injEq] at ha
      have ended := h.error hr hs
      exact ha.2 ▸ ⟨ended.1, ended.2.1⟩
  error {r f r'} hr ha := by
    simp only [Run.attempt] at ha
    cases hs : act r <;> simp [hs] at ha
  agree {r r'} hr hr' hrr' := by
    have hagree := h.agree hr hr' hrr'
    simp only [Run.attempt]
    generalize act r = e, act r' = e' at hagree
    cases hagree with
    | ok huv => exact .ok huv
    | error huv => exact .ok huv

@[grind →]
theorem fails_of_gives_caught {act : Run α} {f : Failure}
    (h : d.running.Gives (Run.attempt act) (.error f)) (ha : d.running.Keeps act) : d.fails f := by
  obtain ⟨r, r', hr, h⟩ := h
  simp only [Run.attempt] at h
  cases hs : act r with
  | ok b u => simp [hs] at h
  | error e u =>
    simp only [hs, EStateM.Result.ok.injEq, Except.error.injEq] at h
    obtain ⟨rfl, rfl⟩ := h
    exact (ha.error hr hs).2.2

/-- The frame of a type or a call starts with no failure being handled, and keeps its names itself. -/
@[grind ←]
theorem fits_of_kind {frame : Frame} (hf : frame.handled = none) (hk : frame.kind ≠ .module) :
    d.Fits frame where
  handled f h := by simp [hf] at h
  home h := absurd h hk

@[grind ←]
theorem keeps_inFrame {frame : Frame} {act : Run α} (hf : d.Fits frame)
    (h : d.running.Keeps act) : d.running.Keeps (Run.inFrame frame act) where
  ok {r a r'} hr ha := by
    have hstart : d.running.inv { session := r.session, frame } := ⟨hr.1, hf⟩
    simp only [Run.inFrame] at ha
    cases hs : act { session := r.session, frame } with
    | ok b u =>
      simp only [hs, EStateM.Result.ok.injEq] at ha
      obtain ⟨rfl, rfl⟩ := ha
      have ended := h.ok hstart hs
      exact ⟨⟨ended.1.1, hr.2⟩, ended.2⟩
    | error e u => simp [hs] at ha
  error {r f r'} hr ha := by
    have hstart : d.running.inv { session := r.session, frame } := ⟨hr.1, hf⟩
    simp only [Run.inFrame] at ha
    cases hs : act { session := r.session, frame } with
    | ok b u => simp [hs] at ha
    | error e u =>
      simp only [hs, EStateM.Result.error.injEq] at ha
      obtain ⟨rfl, rfl⟩ := ha
      have ended := h.error hstart hs
      exact ⟨⟨ended.1.1, hr.2⟩, ended.2.1, ended.2.2⟩
  agree {r r'} hr hr' hrr' := by
    have hagree := h.agree (s := { session := r.session, frame }) (t := { session := r'.session, frame })
      ⟨hr.1, hf⟩ ⟨hr'.1, hf⟩ ⟨hrr'.1, rfl⟩
    simp only [Run.inFrame]
    generalize act { session := r.session, frame } = e, act { session := r'.session, frame } = e' at hagree
    cases hagree with
    | ok huv =>
      dsimp only
      rw [huv.2]
      exact .ok ⟨huv.1, hrr'.2⟩
    | error huv => exact .error ⟨huv.1, hrr'.2⟩

@[grind ←]
theorem keeps_start {frame : Frame} {act : Run α} (hf : d.Fits frame)
    (h : d.running.Keeps act) : d.Keeps (Run.start frame act) where
  ok {s a t} hs ha := by
    have hstart : d.running.inv { session := s, frame } := ⟨hs, hf⟩
    simp only [Run.start] at ha
    cases hr : act { session := s, frame } with
    | ok b u =>
      simp only [hr, EStateM.Result.ok.injEq] at ha
      obtain ⟨rfl, rfl⟩ := ha
      have ended := h.ok hstart hr
      exact ⟨ended.1.1, ended.2⟩
    | error e u => simp [hr] at ha
  error {s f t} hs ha := by
    have hstart : d.running.inv { session := s, frame } := ⟨hs, hf⟩
    simp only [Run.start] at ha
    cases hr : act { session := s, frame } with
    | ok b u => simp [hr] at ha
    | error e u =>
      simp only [hr, EStateM.Result.error.injEq] at ha
      obtain ⟨rfl, rfl⟩ := ha
      have ended := h.error hstart hr
      exact ⟨ended.1.1, ended.2.1, ended.2.2⟩
  agree {s t} hs ht hst := by
    have hagree := h.agree (s := { session := s, frame }) (t := { session := t, frame })
      ⟨hs, hf⟩ ⟨ht, hf⟩ ⟨hst, rfl⟩
    simp only [Run.start]
    generalize act { session := s, frame } = e, act { session := t, frame } = e' at hagree
    cases hagree with
    | ok huv => exact .ok huv.1
    | error huv => exact .error huv.1

/-! ## Names -/

@[grind ←]
theorem keeps_home : d.running.Keeps Run.home :=
  keeps_framed (fun _ _ => keeps_lift (keeps_module _)) fun _ _ h => by rw [h]

@[grind ←]
theorem keeps_known (name : String) : d.running.Keeps (Run.known name) :=
  keeps_framed (fun _ _ => .pure _) fun _ _ h => by rw [h]

@[grind ←]
theorem keeps_lookupOutside (name : String) : d.running.Keeps (Run.lookupOutside name) := by
  unfold Run.lookupOutside
  grind

@[grind ←]
theorem keeps_lookupName (name : String) : d.running.Keeps (Run.lookup name) := by
  refine (keeps_known name).bind fun known _ => keeps_framed (fun r _ => ?_) fun _ _ h => by rw [h]
  dsimp only
  grind

@[grind ←]
theorem keeps_bindName (name : String) (value : Value) : d.running.Keeps (Run.bind name value) := by
  refine (keeps_known name).bind fun known _ => keeps_framed (fun r hr => ?_) fun _ _ h => by rw [h]
  dsimp only
  split
  · rename_i hk
    exact keeps_lift (keeps_bind (hr.home hk) _ _)
  · exact keeps_changeFrame (fun _ => { r.frame with own := setEntry known value r.frame.own }) fun _ _ =>
      ⟨hr.handled, hr.home⟩

end Discipline

end UnitFoundry.Script
