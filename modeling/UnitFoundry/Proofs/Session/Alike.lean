import UnitFoundry.Session
import UnitFoundry.Proofs.Contract

/-!
# Sessions that are alike

What operations do depends on the units of a session and on what belongs to them. It is not to depend on where copies
of artifacts go, on what is logged, or on what lies on the disk in places that nobody asks for.

* `Session.Alike` — two sessions with the same units and all that belongs to these;
* `Session.Unmoved` — two sessions with the same places where files are kept and looked for;
* `Onlooker` — a contract that does not tell some sessions apart, which are alike.
-/

namespace UnitFoundry

namespace Session

/-- Two sessions differ at most in their side stores, in their disks and in what they log. -/
structure Alike (s t : Session) : Prop where
  contexts : s.contexts = t.contexts
  registry : s.registry = t.registry
  overlay : s.overlay = t.overlay
  writers : s.writers = t.writers
  scopes : s.scopes = t.scopes
  modules : s.modules = t.modules
  history : s.history = t.history
  assigned : s.assigned = t.assigned
  objects : s.objects = t.objects
  made : s.made = t.made
  resources : s.resources = t.resources
  policy : s.policy = t.policy
  notes : s.notes = t.notes

/-- Two sessions have the same side store, and the same disk with the same resource path. -/
structure Unmoved (s t : Session) : Prop where
  sideStore : t.sideStore = s.sideStore
  disk : t.disk = s.disk
  resources : t.resources = s.resources

variable {s t u : Session}

theorem Alike.refl (s : Session) : s.Alike s :=
  ⟨rfl, rfl, rfl, rfl, rfl, rfl, rfl, rfl, rfl, rfl, rfl, rfl, rfl⟩

theorem Alike.of_eq (h : s = t) : s.Alike t := h ▸ .refl s

theorem Alike.begun (h : s.Alike t) (id : Script.ContextId) (m : Script.ModuleId) :
    (s.begun id m).Alike (t.begun id m) :=
  { h with
    contexts := congrArg (·.modify id fun c => { c with module? := some m }) h.contexts
    history := congrArg (· ++ [Event.begun id m]) h.history }

theorem Alike.ended (h : s.Alike t) (id : Script.ContextId) (m : Script.ModuleId) (how : Exit) :
    (s.ended id m how).Alike (t.ended id m how) :=
  { h with
    contexts := congrArg (·.modify id how.settle) h.contexts
    history := congrArg (· ++ [Event.ended id m how]) h.history }

theorem Unmoved.refl (s : Session) : s.Unmoved s := ⟨rfl, rfl, rfl⟩

end Session

/-- A contract on sessions. Those that it does not tell apart are alike, and go on not to be told apart where they
are changed alike and stay where they are. -/
structure Onlooker extends Contract Session where
  same : ∀ s, alike s s := by exact fun _ => rfl
  sees : ∀ {s t}, alike s t → s.Alike t := by exact fun h => .of_eq h
  along : ∀ {s t} {change : Session → Session}, (∀ s : Session, s.Unmoved (change s)) →
    (∀ s t : Session, s.Alike t → (change s).Alike (change t)) → alike s t → alike (change s) (change t) := by
    exact fun _ _ h => congrArg _ h

end UnitFoundry
