import UnitFoundry.Proofs.Entries
import UnitFoundry.Proofs.Operations
import UnitFoundry.Script.Run

/-!
# Where names are bound

What runs has a frame: it is the body of a unit, and binds names in its module, or it is the body of a type or
a function, and keeps its names itself. Private names of a type are bound under another name.

* `Run.bind_ok`, `lift_eq_ok` — what runs, step by step;
* `Running.Within` — the module of the frame, and the unit it belongs to;
* `Running.binding`, `bind_apply` — a name is bound;
* `Running.bound?`, `bound?_binding` — what names are bound to;
* `Running.IsRegular`, `lookup_binding` — what has just been bound is found;
* `Running.IsBody`, `IsBody.lookup_eq` — the bodies of units, and the values of names in them.
-/

namespace UnitFoundry.Script

open Text

variable {α β : Type} {r q : Running} {owner : ContextId} {name other : String} {value : Value}

namespace Run

/-! ## What runs, step by step -/

theorem bind_ok {x : Run α} {next : α → Run β} {a : α} (h : x r = .ok a q) : (x >>= next) r = next a q := by
  simp [Bind.bind, EStateM.bind, h]

theorem bind_error {x : Run α} {next : α → Run β} {f : Failure} (h : x r = .error f q) :
    (x >>= next) r = .error f q := by
  simp [Bind.bind, EStateM.bind, h]

theorem bind_eq_ok {x : Run α} {next : α → Run β} {b : β} {u : Running} :
    (x >>= next) r = .ok b u ↔ ∃ a q, x r = .ok a q ∧ next a q = .ok b u := by
  cases h : x r with
  | ok a q => simp [bind_ok h]
  | error f q => simp [bind_error h]

theorem lift_ok {act : Action α} {a : α} {s : Session} (h : act r.session = .ok a s) :
    lift act r = .ok a { r with session := s } := by
  simp [lift, h]

theorem lift_error {act : Action α} {f : Failure} {s : Session} (h : act r.session = .error f s) :
    lift act r = .error f { r with session := s } := by
  simp [lift, h]

/-- An operation on the session leaves the frame as it is. -/
theorem lift_eq_ok {act : Action α} {a : α} :
    lift act r = .ok a q ↔ ∃ s, act r.session = .ok a s ∧ q = { r with session := s } := by
  cases h : act r.session with
  | ok b s =>
    rw [lift_ok h]
    constructor
    · rintro ⟨⟩
      exact ⟨s, rfl, rfl⟩
    · rintro ⟨s, ⟨⟩, rfl⟩
      rfl
  | error f s => simp [lift_error h]

@[simp]
theorem get_apply (r : Running) : (get : Run Running) r = .ok r r := rfl

@[simp]
theorem known_apply (name : String) (r : Running) :
    known name r = .ok (privateName r.frame.owner name) r := rfl

end Run

/-- Outside types no name is private. -/
@[simp]
theorem privateName_outside (name : String) : privateName "" name = name := by
  simp [privateName]

namespace Running

/-! ## Frames -/

/-- What runs belongs to a unit: its module is that of a context. -/
def Within (r : Running) (owner : ContextId) : Prop :=
  ∃ m, r.session.modules[r.frame.home]? = some m ∧ m.owner = owner

/-- What runs after a name has been bound. -/
def binding (r : Running) (name : String) (value : Value) : Running :=
  let known := privateName r.frame.owner name
  match r.frame.kind with
  | .module => { r with session := { r.session with
      modules := r.session.modules.modify r.frame.home fun m =>
        { m with names := setEntry known value m.names } } }
  | _ => { r with frame := { r.frame with own := setEntry known value r.frame.own } }

/-- What a name is bound to, in the module or in the frame itself. -/
def bound? (r : Running) (name : String) : Option Value :=
  let known := privateName r.frame.owner name
  match r.frame.kind with
  | .module => r.session.modules[r.frame.home]?.bind (·.get? known)
  | _ => lookupEntry known r.frame.own

theorem bind_apply (name : String) (value : Value) (r : Running) :
    Run.bind name value r = .ok ⟨⟩ (r.binding name value) := by
  rw [Run.bind, Run.bind_ok (Run.known_apply name r), Run.bind_ok (Run.get_apply r)]
  unfold binding
  cases hkind : r.frame.kind <;> simp only [hkind] <;> rfl

/-! ### What a binding leaves alone -/

@[simp]
theorem binding_objects (r : Running) (name : String) (value : Value) :
    (r.binding name value).session.objects = r.session.objects := by
  unfold binding
  cases r.frame.kind <;> rfl

@[simp]
theorem binding_owner (r : Running) (name : String) (value : Value) :
    (r.binding name value).frame.owner = r.frame.owner := by
  unfold binding
  cases r.frame.kind <;> rfl

theorem Within.binding (h : r.Within owner) (name : String) (value : Value) :
    (r.binding name value).Within owner := by
  obtain ⟨m, hm, howner⟩ := h
  unfold Within Running.binding
  cases r.frame.kind with
  | module =>
    exact ⟨{ m with names := setEntry (privateName r.frame.owner name) value m.names }, by simp [hm], howner⟩
  | type => exact ⟨m, hm, howner⟩
  | function => exact ⟨m, hm, howner⟩

/-! ### What names are bound to -/

/-- A name is bound to its value then, and others are bound to what they were bound to. -/
theorem bound?_binding (h : r.Within owner) (name other : String) (value : Value) :
    (r.binding name value).bound? other =
      if privateName r.frame.owner other = privateName r.frame.owner name then some value
      else r.bound? other := by
  obtain ⟨m, hm, -⟩ := h
  cases hkind : r.frame.kind with
  | module => simp [bound?, Running.binding, hkind, hm, UnitModule.get?, lookupEntry_setEntry]
  | type => simp [bound?, Running.binding, hkind, lookupEntry_setEntry]
  | function => simp [bound?, Running.binding, hkind, lookupEntry_setEntry]

theorem bound?_binding_self (h : r.Within owner) (name : String) (value : Value) :
    (r.binding name value).bound? name = some value := by
  rw [bound?_binding h, if_pos rfl]

/-! ### Values of names -/

/-- What runs is the body of a type or a function, or it has no names but those of its module. -/
def IsRegular (r : Running) : Prop := r.frame.kind = .module → r.frame.own = [] ∧ r.frame.locals = []

/-- A name that is bound has its value. -/
theorem lookup_of_bound (hregular : r.IsRegular) (hbound : r.bound? name = some value) :
    Run.lookup name r = .ok value r := by
  rw [Run.lookup, Run.bind_ok (Run.known_apply name r), Run.bind_ok (Run.get_apply r)]
  unfold bound? at hbound
  cases hkind : r.frame.kind with
  | module =>
    rw [hkind] at hbound
    obtain ⟨m, hm, hvalue⟩ := Option.bind_eq_some_iff.1 hbound
    have hhome : Run.home r = .ok m r := Run.lift_ok (Action.module_some hm)
    have houtside : Run.lookupOutside (privateName r.frame.owner name) r = .ok value r := by
      rw [Run.lookupOutside, Run.bind_ok hhome, hvalue]
      rfl
    rw [(hregular hkind).1, (hregular hkind).2]
    exact houtside
  | type =>
    rw [hkind] at hbound
    replace hbound : lookupEntry (privateName r.frame.owner name) r.frame.own = some value := hbound
    rw [hbound]
    rfl
  | function =>
    rw [hkind] at hbound
    replace hbound : lookupEntry (privateName r.frame.owner name) r.frame.own = some value := hbound
    rw [hbound]
    rfl

theorem IsRegular.binding (h : r.IsRegular) (name : String) (value : Value) : (r.binding name value).IsRegular := by
  unfold IsRegular Running.binding
  cases hkind : r.frame.kind with
  | module => exact h
  | type => exact fun hmodule => absurd (hkind.symm.trans hmodule) (by decide)
  | function => exact fun hmodule => absurd (hkind.symm.trans hmodule) (by decide)

/-- A name that has just been bound has its value. -/
theorem lookup_binding (h : r.Within owner) (hregular : r.IsRegular) (name : String) (value : Value) :
    Run.lookup name (r.binding name value) = .ok value (r.binding name value) :=
  lookup_of_bound (hregular.binding name value) (bound?_binding_self h name value)

/-! ### Bodies of units -/

/-- What runs is the body of a unit: all names are those of its module. -/
structure IsBody (r : Running) (owner : ContextId) : Prop where
  within : r.Within owner
  kind : r.frame.kind = .module
  own : r.frame.own = []
  locals : r.frame.locals = []
  outside : r.frame.owner = ""

theorem IsBody.of_frame (h : r.IsBody owner) (hframe : q.frame = r.frame) (hwithin : q.Within owner) :
    q.IsBody owner where
  within := hwithin
  kind := hframe ▸ h.kind
  own := hframe ▸ h.own
  locals := hframe ▸ h.locals
  outside := hframe ▸ h.outside

theorem IsBody.frame_binding (h : r.IsBody owner) (name : String) (value : Value) :
    (r.binding name value).frame = r.frame := by
  unfold Running.binding
  rw [h.kind]

/-- A name of the module has its value there. -/
theorem IsBody.lookup_eq (h : r.IsBody owner) (hbound : r.bound? name = some value) :
    Run.lookup name r = .ok value r :=
  lookup_of_bound (fun _ => ⟨h.own, h.locals⟩) hbound

end Running

end UnitFoundry.Script
