import UnitFoundry.Backend.Scenario
import UnitFoundry.Proofs.Compiler.Invocations
import UnitFoundry.Proofs.Emission.Courses
import UnitFoundry.Proofs.Loader.Untouched

/-!
# Competing generations

While a unit is compiled, other generations of it may be published: by the backend itself, under other
names, or by those who close the writers of other calls. All of them compete for one slot of the
registry, and the last one has it. The compilation does not depend on who this is: it hands out the
module of the context that was published under its own name, through its own scope.

* `Invocation.scope`, `Invocation.program`, `Invocation.start` — what the backend runs, and where;
* `LoadsLast` — a load of what was published last under the name, while the slot leads to what was
  published last of all;
* `course_of_invocation` — the course that an invocation takes if nobody interferes;
* `loadsLast_of_published` — **whatever others publish**, this is what a compilation ends with.
-/

namespace UnitFoundry.Compiler

open Script Text Emission

/-! ## What the backend runs -/

/-- The session in which a backend starts: the source is in memory, and the scope is open. -/
def starting (name source : String) (options : Options) (s : Session) : Session :=
  { s with
    overlay := setEntry
      (UnitName.overlayUri Location.sourcePath.label (UnitName.package name)
        (UnitName.simple name ++ UnitName.sourceExtension))
      (File.source name source) s.overlay
    log := record s.level s.log ⟨.debug, .compiler, startText name options⟩
    scopes := s.scopes ++ [[]] }

/-- An invocation is a run of the backend's program, whose verdict it gives back. -/
theorem invoke_apply (backend : Backend) (name source : String) (options : Options) (s : Session) :
    invoke backend name source options s = (do
      let (verdict, found) ← (backend.compile s.notes options [File.source name source]).run
        logDiagnostic s.scopes.length []
      let succeeded ← ofExcept verdict
      pure { succeeded, found, published := ← emitted s.scopes.length } : Action Outcome)
      (starting name source options s) := rfl

namespace Invocation

/-- The scope that the backend is handed. -/
def scope (i : Invocation) : ScopeId := i.before.scopes.length

/-- The program that the backend runs. -/
def program (i : Invocation) (backend : Backend) (name source : String) : Program Bool :=
  backend.compile i.before.notes i.options [File.source name source]

/-- The session in which it starts. -/
def start (i : Invocation) (name source : String) : Session :=
  starting name source i.options i.before

end Invocation

variable {backend : Backend} {name source : String} {s t u v : Session} {i : Invocation} {o : Outcome}
  {scope : ScopeId} {own all : List Publication}

theorem exists_invocation?_of_mem (hi : i ∈ invocations backend name source s) :
    ∃ u, invocation? backend name source i.options u = some i := by
  rcases List.mem_append.1 hi with hfirst | hsecond
  · have h := Option.mem_toList.1 hfirst
    exact ⟨s, (options_of_invocation? h).symm ▸ h⟩
  · obtain ⟨t, -, h⟩ := Option.bind_eq_some_iff.1 (Option.mem_toList.1 hsecond)
    exact ⟨t, (options_of_invocation? h).symm ▸ h⟩

/-- What an invocation answers is the verdict of its program, with all that was published through its
scope. -/
theorem run_of_invocation (hi : i ∈ invocations backend name source s) (ho : i.answer = .ok o) :
    (i.program backend name source).run logDiagnostic i.scope [] (i.start name source) =
        .ok (.ok o.succeeded, o.found) i.after ∧
      o.published = i.after.scopes[i.scope]?.getD [] := by
  obtain ⟨w, hw⟩ := exists_invocation?_of_mem hi
  obtain ⟨-, ⟨o', ho', hinvoke⟩ | ⟨f, hf, -⟩⟩ := invocation?_cases hw
  · obtain rfl : o' = o := Except.ok.inj (ho'.symm.trans ho)
    rw [invoke_apply] at hinvoke
    obtain ⟨⟨verdict, found⟩, t, hrun, hrest⟩ := Action.bind_eq_ok.1 hinvoke
    obtain ⟨succeeded, u, hverdict, hrest⟩ := Action.bind_eq_ok.1 hrest
    cases verdict with
    | error f => cases hverdict
    | ok verdict =>
      cases hverdict
      cases hrest
      exact ⟨hrun, rfl⟩
  · cases hf.symm.trans ho

/-- **The course that an invocation takes if nobody interferes.** -/
theorem course_of_invocation (hi : i ∈ invocations backend name source s) (ho : i.answer = .ok o)
    (hsucceeded : o.succeeded = true) :
    Course (fun _ => False) i.scope (i.program backend name source) (i.start name source)
      (publications i.scope (i.program backend name source) (i.start name source)) (.ok true)
      i.after := by
  have hrun := (run_of_invocation hi ho).1
  rw [hsucceeded] at hrun
  exact course_of_run hrun

/-! ## What is handed out -/

/-- What a compilation ends with after publications through its scope and elsewhere: a load of the context
that was published last under the very name through the scope. The slot of the unit leads to what was
published last of all, and still does when the load has ended. -/
structure LoadsLast (name : String) (scope : ScopeId) (own all : List Publication) (u : Session)
    (result : EStateM.Result Failure Session ModuleId) : Prop where
  loads : ∃ id log, lastSet? (Publication.through scope own) name = some id ∧
    result = Loader.load id { u with log }
  active : ∃ id, lastSet? (Publication.generations all) (UnitName.canonical name) = some id ∧
    u.registry.lookup? (UnitName.canonical name) = some id ∧
    (leftBy result).registry.lookup? (UnitName.canonical name) = some id

/-- The settling of a success loads what the scope remembers under the name, whatever is active. -/
theorem loadsLast_of_settle (hv : v.Sound) (hsucceeded : o.succeeded = true)
    (hpublished : lookupEntry name o.published = lastSet? (Publication.through scope own) name)
    (hown : (lastSet? (Publication.through scope own) name).isSome)
    (hactive : v.registry.lookup? (UnitName.canonical name) =
      lastSet? (Publication.generations all) (UnitName.canonical name))
    (hfilled : (v.registry.lookup? (UnitName.canonical name)).isSome) :
    LoadsLast name scope own all v (settle name source o v) := by
  obtain ⟨chosen, hchosen⟩ := Option.isSome_iff_exists.1 hown
  obtain ⟨active, hid⟩ := Option.isSome_iff_exists.1 hfilled
  obtain ⟨log, hload⟩ := loadPublished_of_active hv o.published hid
  rw [hpublished, hchosen] at hload
  have hsettle : settle name source o v = Loader.load chosen { v with log } := by
    rw [settle, if_pos hsucceeded, hload]
    rfl
  refine ⟨⟨chosen, log, hchosen, hsettle⟩, active, hactive.symm.trans hid, hid, ?_⟩
  rw [hsettle, Loader.untouched_registry.load]
  exact hid

/-- **Whatever is published meanwhile**, by the backend or by others, a compilation whose backend has
reported success and published something under the name through its scope ends with a load of what it
published last, if the slot of the unit is filled when it is looked up; and the slot leads to what was
published last of all. If nobody interferes, the slot is filled. -/
theorem loadsLast_of_published (hs : s.Reachable) (hi : i ∈ invocations backend name source s) :
    (∀ (others : Emission.Step → Prop) (own later : List Publication) (u v : Session) (found : List Diagnostic),
      Course others i.scope (i.program backend name source) (i.start name source) own (.ok true) u →
      Course others i.scope (Program.done ()) u later (.ok ()) v →
      (lastSet? (Publication.through i.scope own) name).isSome →
      (v.registry.lookup? (UnitName.canonical name)).isSome →
      LoadsLast name i.scope own (own ++ later) v
        (settle name source ⟨true, found, u.scopes[i.scope]?.getD []⟩ v)) ∧
    ∀ own, own = publications i.scope (i.program backend name source) (i.start name source) →
      ∀ o, i.answer = .ok o → o.succeeded = true →
        (lastSet? (Publication.through i.scope own) name).isSome →
        LoadsLast name i.scope own own i.after (compile backend name source s) := by
  have hbefore : i.before.Sound := (inv_of_mem Session.soundCompiling hs.sound hi).1
  have hstart : (i.start name source).Sound := hbefore.congr rfl rfl rfl
  have hopen : (i.start name source).scopes[i.scope]? = some [] := List.getElem?_concat_length
  -- what the scope remembers under the name when the backend has ended
  have hremembers {others : Emission.Step → Prop} {own : List Publication} {u : Session}
      (hcourse : Course others i.scope (i.program backend name source) (i.start name source) own
        (.ok true) u) :
      lookupEntry name (u.scopes[i.scope]?.getD []) =
        lastSet? (Publication.through i.scope own) name := by
    obtain ⟨found, hfound, hlast⟩ := (hcourse.emits hstart).2.emitted i.scope [] hopen
    rw [hfound, Option.getD_some, hlast]
    exact Option.or_none
  refine ⟨fun others own later u v found hcourse hlater hown hfilled => ?_,
    fun own hpublications o ho hsucceeded hown => ?_⟩
  · obtain ⟨hu, hemits⟩ := hcourse.emits hstart
    obtain ⟨hv, hemits'⟩ := hlater.emits hu
    have hall : (lastSet? (Publication.generations (own ++ later)) (UnitName.canonical name)).isSome := by
      rw [Publication.generations_append, lastSet?_append, Option.isSome_or,
        Publication.isSome_generations hown, Bool.or_true]
    exact loadsLast_of_settle hv rfl (hremembers hcourse) hown
      ((hemits.trans hemits').lookup?_eq hall hfilled) hfilled
  · have hcourse := course_of_invocation hi ho hsucceeded
    rw [← hpublications] at hcourse
    obtain ⟨hafter, hemits⟩ := hcourse.emits hstart
    have hall := Publication.isSome_generations hown
    have hfilled : (i.after.registry.lookup? (UnitName.canonical name)).isSome := by
      rcases hemits.active (UnitName.canonical name) with hactive | ⟨⟨_, hnobody, _⟩, -⟩
      · rw [hactive, Option.isSome_or, hall, Bool.true_or]
      · exact hnobody.elim
    rw [compile_of_succeeded hs.sound hi ho hsucceeded]
    refine loadsLast_of_settle hafter hsucceeded ?_ hown (hemits.lookup?_eq hall hfilled) hfilled
    rw [(run_of_invocation hi ho).2]
    exact hremembers hcourse

/-- A session in which another call has opened a writer for an older generation. -/
def pending : Session :=
  Session.performed {} [.openOutput none .classOutput "p.A_ts1" .artifact none]

/-- A backend that publishes its artifact, and then closes the writer of the other call. -/
def overtaken : Backend :=
  { className := "Backend", label := "overtaken"
    compile := fun _ _ _ => do
      Program.emit "p.A_ts2" (Scenario.artifactOf "p.A_ts2" "x = 2\n") none
      let _ ← Program.request (.close 0)
      pure true }

/-- The older generation is published last and is active, but the module of the newer one is handed out,
for it was asked for. -/
theorem overtaken_loadsLast : pending.Reachable ∧
    ∃ i ∈ invocations overtaken "p.A_ts2" "x = 2\n" pending, ∃ own,
      (own.map fun p => (p.context, p.scope)) = [(1, some 0), (0, none)] ∧
      LoadsLast "p.A_ts2" i.scope own own i.after (compile overtaken "p.A_ts2" "x = 2\n" pending) := by
  have hreachable : pending.Reachable := (Session.Reachable.fresh Session.isFresh_empty).performed _
  have hovertaken : (invocation? overtaken "p.A_ts2" "x = 2\n" pending.policy.options pending).any
      (fun i => (i.outcome?.any (·.succeeded)) && decide (i.scope = 0) &&
        decide (publications i.scope (i.program overtaken "p.A_ts2" "x = 2\n")
          (i.start "p.A_ts2" "x = 2\n") = [⟨1, "p.A_ts2", some 0⟩, ⟨0, "p.A_ts1", none⟩])) = true := by
    decide +kernel
  obtain ⟨i, hi, h⟩ := (Option.any_eq_true ..).1 hovertaken
  simp only [Bool.and_eq_true, decide_eq_true_eq] at h
  obtain ⟨⟨houtcome, hscope⟩, hown⟩ := h
  obtain ⟨o, ho, hsucceeded⟩ := (Option.any_eq_true ..).1 houtcome
  have hmem : i ∈ invocations overtaken "p.A_ts2" "x = 2\n" pending :=
    List.mem_append_left _ (Option.mem_toList.2 hi)
  refine ⟨hreachable, i, hmem, _, ?_, (loadsLast_of_published hreachable hmem).2 _ hown.symm o
    (Invocation.answer_of_outcome? ho) hsucceeded ?_⟩
  · rfl
  · rw [hscope]
    rfl

end UnitFoundry.Compiler
