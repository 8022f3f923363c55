import Mathlib.Data.Setoid.Basic
import UnitFoundry.Proofs.Loader.Untouched

/-!
# What operations leave as it is

An operation keeps a part of the session if this part is after it what it was before, whatever the operation ends
with. What is put together from operations that keep it keeps it, too.

* `keeping` — the contract to keep a part of the session;
* `keeping_iff` — what it says of an operation;
* `keeping_of_look`, `keeping_logged`, `keeping_configure` — operations that keep to it.
-/

namespace UnitFoundry

open Script Text

variable {α β : Type} {part : Session → β} {s t : Session}

/-- To leave a part of the session as it is. -/
def keeping (part : Session → β) : Contract Session where
  inv _ := True
  rel := Setoid.ker part
  fails _ := True
  refl := (Setoid.ker part).refl
  trans := (Setoid.ker part).trans
  raised _ := trivial
  thrown _ _ := trivial

theorem keeping_iff {act : Action α} :
    (keeping part).Keeps act ↔ ∀ s, part (leftBy (act s)) = part s := by
  constructor
  · intro h s
    exact Eq.symm (h.leftBy trivial).2
  · intro h
    refine .of_one rfl (fun {s a t} _ ha => ?_) fun {s f t} _ ha => ?_
    · have hs := h s
      rw [ha] at hs
      exact ⟨trivial, hs.symm⟩
    · have hs := h s
      rw [ha] at hs
      exact ⟨trivial, hs.symm, trivial⟩

/-- What keeps a part and ends with a value ends with this part. -/
theorem eq_of_keeping {act : Action α} {a : α} (h : (keeping part).Keeps act) (hact : act s = .ok a t) :
    part t = part s :=
  Eq.symm (h.ok trivial hact).2

/-! ## Operations -/

/-- What changes nothing keeps everything. -/
theorem keeping_of_look {act : Action α} (h : ∀ s, leftBy (act s) = s) : (keeping part).Keeps act :=
  keeping_iff.2 fun s => congrArg part (h s)

theorem keeping_get : (keeping part).Keeps (get : Action Session) := keeping_of_look fun _ => rfl

theorem keeping_modify {change : Session → Session} (h : ∀ s, part (change s) = part s) :
    (keeping part).Keeps (modify change : Action PUnit) :=
  keeping_iff.2 h

theorem keeping_result (e : Except Failure α) : (keeping part).Keeps (ofExcept e : Action α) :=
  .of_except fun _ _ => trivial

theorem keeping_logged (h : ∀ s log, part { s with log } = part s) (severity : Severity) (channel : Channel)
    (text : String) : (keeping part).Keeps (Action.logged severity channel text) :=
  keeping_iff.2 fun s => h s _

theorem keeping_context (id : ContextId) : (keeping part).Keeps (Action.context id) := by
  refine keeping_of_look fun s => ?_
  cases hc : s.contexts[id]? with
  | some c => rw [Action.context_some hc]; rfl
  | none => rw [Action.context_none hc]; rfl

/-- A change of the policy keeps what does not depend on it. -/
theorem keeping_configure (h : ∀ s policy, part { s with policy } = part s) (change : Change) :
    (keeping part).Keeps (Compiler.configure change) := by
  refine keeping_iff.2 fun s => ?_
  show part (leftBy ((do
    let policy ← ofExcept (s.policy.configure change)
    set { s with policy } : Action Unit) s)) = part s
  cases s.policy.configure change with
  | ok policy => exact h s policy
  | error f => rfl

end UnitFoundry
