import UnitFoundry.Proofs.Compiler.Recovery
import UnitFoundry.Proofs.Compiler.Rejection
import UnitFoundry.Proofs.Compiler.Scopes

/-!
# The attempts of a compilation

A compilation invokes its backend not at all, once, or twice. It has read the policy when it began, so that the
option sets are those of then, whatever the backend makes of the policy while it runs. The second invocation needs
a rejection with a lint warning, and is asked for only with lint recovery. A rejection that the compilation ends
with is about its last invocation and about no earlier one.

* `requests`, `reports` — what a program asks for while it runs, and the diagnostics among it;
* `found_of_run`, `found_eq_reports` — what is found are the reports, in order;
* `options_invocations` — the option sets of the invocations;
* `scopeCount_compile` — there are as many invocations as scopes are opened;
* `rejection_of_conclude`, `rejected_of_two` — what a rejection is about, and what a second invocation needs;
* `attempts_ordered` — **the invocations of a compilation, their options and what is reported in them**.
-/

namespace UnitFoundry

open Script Text

/-! ## Reports -/

namespace Emission

variable {α : Type}

/-- What a program asks for while it runs, in order. -/
def requests (scope : ScopeId) : Program α → Session → List Request
  | .done _, _ => []
  | .fail _, _ => []
  | .ask request next, s =>
    request ::
      match Action.attempt (request.perform logDiagnostic scope) s with
      | .ok answer t => requests scope (next answer) t
      | .error _ _ => []

/-- What a program reports while it runs, in order. -/
def reports (scope : ScopeId) (p : Program α) (s : Session) : List Diagnostic :=
  (requests scope p s).flatMap Request.reported

/-- What is found after a run is what was found before, and the reports. -/
theorem found_of_run {scope : ScopeId} {p : Program α} {found all : List Diagnostic}
    {result : Except Failure α} {s t : Session}
    (h : p.run logDiagnostic scope found s = .ok (result, all) t) : all = found ++ reports scope p s := by
  induction p generalizing found s with
  | done x =>
    cases h
    exact (List.append_nil _).symm
  | fail failure =>
    cases h
    exact (List.append_nil _).symm
  | ask request next ih =>
    obtain ⟨answer, u, hanswer, hrest⟩ := Action.bind_eq_ok.1 h
    rw [reports, requests, hanswer, List.flatMap_cons, ← List.append_assoc]
    exact ih answer hrest

end Emission

namespace Compiler

open Emission

variable {backend : Backend} {name source : String} {options : Options} {s t : Session}
  {i j : Invocation} {o : Outcome} {e : FoundryError}

/-- What the backend reports in an invocation, in order. -/
def Invocation.reports (i : Invocation) (backend : Backend) (name source : String) : List Diagnostic :=
  Emission.reports i.scope (i.program backend name source) (i.start name source)

/-- What is found in an invocation is what the backend reports in it. -/
theorem found_eq_reports (hi : i ∈ invocations backend name source s) (ho : i.answer = .ok o) :
    o.found = i.reports backend name source :=
  found_of_run (run_of_invocation hi ho).1

/-! ## Option sets -/

/-- A second attempt follows an invocation in the first one. -/
theorem exists_of_secondStart? (hs : s.Sound) (h : secondStart? backend name source s = some t) :
    ∃ i, invocation? backend name source s.policy.options s = some i := by
  obtain ⟨e, u, herror, -⟩ := secondStart?_eq_some h
  exact Option.ne_none_iff_exists'.1 fun hnone => compileOnce_ne_error hs hnone herror

/-- **The option sets of the invocations** are those of the policy that the compilation began with. -/
theorem options_invocations (hs : s.Sound) :
    (invocations backend name source s).map (·.options) = [] ∨
      (invocations backend name source s).map (·.options) = [s.policy.options] ∨
      (invocations backend name source s).map (·.options) = [s.policy.options, s.policy.lintOptions] := by
  cases hstart : secondStart? backend name source s with
  | none =>
    cases hfirst : invocation? backend name source s.policy.options s with
    | none => simp [invocations, hfirst, hstart]
    | some i => simp [invocations, hfirst, hstart, options_of_invocation? hfirst]
  | some t =>
    obtain ⟨i, hfirst⟩ := exists_of_secondStart? hs hstart
    cases hsecond : invocation? backend name source s.policy.lintOptions t with
    | none => simp [invocations, hfirst, hstart, hsecond, options_of_invocation? hfirst]
    | some j =>
      simp [invocations, hfirst, hstart, hsecond, options_of_invocation? hfirst,
        options_of_invocation? hsecond]

/-! ## How many invocations there are -/

/-- **There are as many invocations as scopes are opened.** -/
theorem scopeCount_compile (backend : Backend) (name source : String) (s : Session) :
    scopeCount (leftBy (compile backend name source s)) =
      scopeCount s + (invocations backend name source s).length := by
  have hfirst := scopeCount_compileOnce backend name source s.policy.options s
  rw [invocations, List.length_append, ← Nat.add_assoc, ← hfirst]
  cases hstart : secondStart? backend name source s with
  | none =>
    rw [compile_of_secondStart?_none hstart]
    rfl
  | some t =>
    obtain ⟨e, u, herror, -, rfl⟩ := secondStart?_eq_some hstart
    rw [compile_of_secondStart?_some hstart, scopeCount_compileOnce, herror]
    rfl

/-! ## What a rejection is about -/

/-- An error of an attempt is about its invocation: the attempt concludes it. -/
theorem exists_of_compileOnce_error (hs : s.Sound)
    (h : compileOnce backend name source options s = .error (.error e) t) :
    ∃ i, invocation? backend name source options s = some i ∧ i.conclude name source = .error (.error e) t := by
  obtain ⟨i, hi⟩ := Option.ne_none_iff_exists'.1 fun hnone => compileOnce_ne_error hs hnone h
  exact ⟨i, hi, (compileOnce_of_invocation hi).symm.trans h⟩

/-- An error that a compilation ends with is about its last invocation. -/
theorem exists_last_of_error (hs : s.Sound) (h : compile backend name source s = .error (.error e) t) :
    ∃ i, (invocations backend name source s).getLast? = some i ∧
      i.conclude name source = .error (.error e) t := by
  cases hstart : secondStart? backend name source s with
  | none =>
    rw [compile_of_secondStart?_none hstart] at h
    obtain ⟨i, hi, hconclude⟩ := exists_of_compileOnce_error hs h
    exact ⟨i, by simp [invocations, hi, hstart], hconclude⟩
  | some u =>
    rw [compile_of_secondStart?_some hstart] at h
    have hu : u.Sound := inv_of_secondStart Session.soundCompiling hs hstart
    obtain ⟨i, hi, hconclude⟩ := exists_of_compileOnce_error hu h
    exact ⟨i, by simp [invocations, hi, hstart], hconclude⟩

/-- A rejection that an invocation is concluded with lists what the backend has reported in it, unless the backend
has raised it itself: then it is passed on as it is. -/
theorem rejection_of_conclude (hs : s.Sound) (hi : i ∈ invocations backend name source s)
    (h : i.conclude name source = .error (.error e) t) (he : isRejection e = true) :
    e = .rejected name (i.reports backend name source) ∨ i.answer = .error (.error e) := by
  cases ho : i.answer with
  | error f =>
    rw [Invocation.conclude, ho] at h
    cases h
    exact .inr rfl
  | ok o =>
    refine .inl ?_
    cases hsucceeded : o.succeeded with
    | true =>
      rw [Invocation.conclude, ho] at h
      have hafter : i.after.Sound := (inv_of_mem Session.soundCompiling hs hi).2
      rw [isRejection_of_settle hafter hsucceeded h] at he
      cases he
    | false =>
      obtain ⟨log, hrejected⟩ := conclude_of_rejected name source ho hsucceeded
      cases hrejected.symm.trans h
      rw [found_eq_reports hi ho]

/-- What must have happened for a second invocation: the first attempt has ended with a rejection with a lint
warning, which is about the first invocation. -/
theorem rejected_of_two (hs : s.Sound) (h : invocations backend name source s = [i, j]) :
    s.policy.lintRecovery = true ∧ ∃ e u,
      compileOnce backend name source s.policy.options s = .error (.error e) u ∧
        isRejection e = true ∧ e.hasCategory lintRecoverable = true ∧
        (e = .rejected name (i.reports backend name source) ∨ i.answer = .error (.error e)) := by
  cases hstart : secondStart? backend name source s with
  | none =>
    have hlength := congrArg List.length h
    cases hfirst : invocation? backend name source s.policy.options s with
    | none => simp [invocations, hfirst, hstart] at hlength
    | some k => simp [invocations, hfirst, hstart] at hlength
  | some t =>
    obtain ⟨e, u, herror, hretried, -⟩ := secondStart?_eq_some hstart
    simp only [isRetried, Bool.and_eq_true] at hretried
    obtain ⟨k, hk, hconclude⟩ := exists_of_compileOnce_error hs herror
    obtain rfl : k = i := by
      rw [invocations, hk] at h
      exact (List.cons.inj h).1
    have hmem : k ∈ invocations backend name source s := by simp [h]
    exact ⟨hretried.1.2, e, u, herror, hretried.1.1, hretried.2,
      rejection_of_conclude hs hmem hconclude hretried.1.1⟩

/-! ## All together -/

/-- The invocations of a compilation, as far as its policy and its rejections are concerned. -/
structure Attempts (backend : Backend) (name source : String) (s : Session) : Prop where
  /-- The option sets are those of the policy that the compilation began with, in this order. -/
  options : (invocations backend name source s).map (·.options) = [] ∨
    (invocations backend name source s).map (·.options) = [s.policy.options] ∨
    (invocations backend name source s).map (·.options) = [s.policy.options, s.policy.lintOptions]
  /-- There are no other invocations: each of them has opened a scope. -/
  counted : (leftBy (compile backend name source s)).scopes.length =
    s.scopes.length + (invocations backend name source s).length
  /-- The second one needs lint recovery, and a rejection of the first attempt with a lint warning. -/
  retried : ∀ i j, invocations backend name source s = [i, j] →
    s.policy.lintRecovery = true ∧ ∃ e u,
      compileOnce backend name source s.policy.options s = .error (.error e) u ∧
        isRejection e = true ∧ e.hasCategory lintRecoverable = true ∧
        (e = .rejected name (i.reports backend name source) ∨ i.answer = .error (.error e))
  /-- A rejection lists what was reported in the last one, unless the backend has raised it itself. -/
  rejected : ∀ e t, compile backend name source s = .error (.error e) t → isRejection e = true →
    ∃ i, (invocations backend name source s).getLast? = some i ∧
      (e = .rejected name (i.reports backend name source) ∨ i.answer = .error (.error e))

/-- **The invocations of a compilation, their options and what is reported in them**, whatever the backend does
with the policy while it runs. -/
theorem attempts_ordered (hs : s.Reachable) (backend : Backend) (name source : String) :
    Attempts backend name source s where
  options := options_invocations hs.sound
  counted := scopeCount_compile backend name source s
  retried _ _ h := rejected_of_two hs.sound h
  rejected _ _ h he := by
    obtain ⟨i, hlast, hconclude⟩ := exists_last_of_error hs.sound h
    exact ⟨i, hlast, rejection_of_conclude hs.sound (List.mem_of_getLast? hlast) hconclude he⟩

/-- A backend that rejects every source with a lint warning, after it has turned lint recovery off and asked for an
older grammar. -/
def meddling : Backend :=
  { className := "Backend", label := "meddling"
    compile := fun _ _ _ => do
      Program.request (.configure { target := some "3.9", lintRecovery := some false })
      Program.report { kind := .warning, message := "doubtful", category := some lintRecoverable }
      pure false }

/-- The second attempt is made all the same, under the options that the compilation began with. -/
theorem meddling_attempts : (recovering none).Reachable ∧
    Attempts meddling "p.A_ts1" "x = 1\n" (recovering none) ∧
    (invocations meddling "p.A_ts1" "x = 1\n" (recovering none)).map (·.options.target) = [none, none] ∧
    (leftBy (compile meddling "p.A_ts1" "x = 1\n" (recovering none))).policy.lintRecovery = false :=
  ⟨recovering_reachable none, attempts_ordered (recovering_reachable none) meddling "p.A_ts1" "x = 1\n",
    by decide +kernel, by decide +kernel⟩

end Compiler

end UnitFoundry
