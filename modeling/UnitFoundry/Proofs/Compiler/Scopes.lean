import UnitFoundry.Proofs.Compiler.Competition
import UnitFoundry.Proofs.Emission.Untouched

/-!
# How many scopes are opened

A backend is invoked through a scope of its own, and nothing else opens a scope. So the scopes of a session are as
many as the invocations that there have been.

* `invoke_keeps` — an invocation leaves alone what emission leaves alone, once it has begun;
* `serves_leaving` — what is done around an invocation leaves alone what loads leave alone;
* `scopeCount_invoke` — **an invocation opens one scope**, whatever it ends with;
* `scopeCount_compileOnce` — an attempt opens a scope if it invokes the backend.
-/

namespace UnitFoundry

open Script Text Emission

variable {β : Type} {part : Session → β}

/-! ## In an invocation and around it -/

/-- What emission leaves alone is after an invocation what it was when the backend started. -/
theorem Compiler.invoke_keeps (h : Emission.Untouched part) (backend : Backend) (name source : String)
    (options : Options) (s : Session) :
    part (leftBy (Compiler.invoke backend name source options s)) =
      part (Compiler.starting name source options s) := by
  rw [Compiler.invoke_apply]
  refine keeping_iff.1 ?_ _
  refine (h.program h.diagnostic ..).bind fun result _ => (keeping_result result.1).bind fun _ _ => ?_
  exact (keeping_of_look fun _ => rfl).bind fun _ _ => .pure _

/-- To leave alone what loads leave alone is a discipline for all that a compilation does around its invocations. -/
theorem Loader.serves_leaving (h : Loader.Untouched part) : (Loader.leaving part h).Serves where
  materializes := (Loader.leaving_loads h).materializes
  logged _ _ _ := Loader.keeps_leaving h fun s => ⟨_, _, rfl, h.saved s s.sideStore s.disk _⟩
  lenient _ := trivial

theorem Loader.Untouched.cached (h : Loader.Untouched part) (name : String) (s : Session) :
    part (leftBy (Compiler.cached name s)) = part s :=
  (((Loader.serves_leaving h).keeps_cached name).leftBy trivial).2

theorem Loader.Untouched.settle (h : Loader.Untouched part) (name source : String) (outcome : Outcome)
    (s : Session) : part (leftBy (Compiler.settle name source outcome s)) = part s :=
  (((Loader.serves_leaving h).keeps_settle name source outcome).leftBy trivial).2

/-- The session that an invocation leaves behind. -/
theorem Compiler.after_of_invocation? {backend : Backend} {name source : String} {options : Options} {s : Session}
    {i : Invocation} (hi : invocation? backend name source options s = some i) :
    i.after = leftBy (invoke backend name source options i.before) := by
  obtain ⟨-, ⟨o, -, hinvoke⟩ | ⟨f, -, hinvoke⟩⟩ := invocation?_cases hi
  · rw [hinvoke]
    rfl
  · rw [hinvoke]
    rfl

/-- An attempt does nothing before its invocation, nor after it, to what loads leave alone. -/
theorem Loader.Untouched.compileOnce (h : Loader.Untouched part) (backend : Backend) (name source : String)
    (options : Options) (s : Session) :
    match Compiler.invocation? backend name source options s with
    | some i => part i.before = part s ∧
        part (leftBy (Compiler.compileOnce backend name source options s)) = part i.after
    | none => part (leftBy (Compiler.compileOnce backend name source options s)) = part s := by
  have hcached := h.cached name s
  cases hi : Compiler.invocation? backend name source options s with
  | some i =>
    rw [(Compiler.invocation?_cases hi).1] at hcached
    refine ⟨hcached, ?_⟩
    rw [Compiler.compileOnce_of_invocation hi, Compiler.Invocation.conclude]
    cases i.answer with
    | ok outcome => exact h.settle ..
    | error f => rfl
  | none =>
    rw [Compiler.compileOnce]
    cases hc : Compiler.cached name s with
    | error f t =>
      rw [hc] at hcached
      rw [Action.bind_error hc]
      exact hcached
    | ok found t =>
      rw [hc] at hcached
      rw [Action.bind_ok hc]
      cases found with
      | some m => exact hcached
      | none =>
        obtain ⟨i, hsome, -⟩ := Compiler.exists_invocation backend source options hc
        cases hsome.symm.trans hi

/-! ## Scopes -/

/-- The number of scopes that were opened. -/
def scopeCount (s : Session) : Nat := s.scopes.length

theorem Emission.untouched_scopeCount : Emission.Untouched scopeCount :=
  ⟨fun _ _ => rfl, fun _ _ => rfl, fun _ _ => rfl, fun _ _ => rfl, fun _ _ _ => rfl,
    fun _ _ _ _ => length_remembered ..⟩

theorem Loader.untouched_scopeCount : Loader.Untouched scopeCount :=
  ⟨fun _ _ => rfl, fun _ _ => rfl, fun _ _ _ => rfl, fun _ _ _ _ => rfl, fun _ _ _ => rfl, fun _ _ _ _ => rfl⟩

/-- **An invocation opens one scope**, whatever it ends with. -/
theorem scopeCount_invoke (backend : Backend) (name source : String) (options : Options) (s : Session) :
    scopeCount (leftBy (Compiler.invoke backend name source options s)) = scopeCount s + 1 := by
  rw [Compiler.invoke_keeps untouched_scopeCount]
  exact List.length_append

/-- An attempt opens a scope if it invokes the backend. -/
theorem scopeCount_compileOnce (backend : Backend) (name source : String) (options : Options) (s : Session) :
    scopeCount (leftBy (Compiler.compileOnce backend name source options s)) =
      scopeCount s + (Compiler.invocation? backend name source options s).toList.length := by
  have h := Loader.untouched_scopeCount.compileOnce backend name source options s
  cases hi : Compiler.invocation? backend name source options s with
  | none =>
    rw [hi] at h
    exact h
  | some i =>
    rw [hi] at h
    obtain ⟨hbefore, hleft⟩ := h
    rw [hleft, Compiler.after_of_invocation? hi, scopeCount_invoke, hbefore]
    rfl

end UnitFoundry
