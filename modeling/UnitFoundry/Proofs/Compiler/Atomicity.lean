import UnitFoundry.Proofs.Compiler.Reading
import UnitFoundry.Proofs.Session.Isolation

/-!
# Rejections are atomic

A compilation that ends with a rejection has published nothing: the registry, the names and the artifacts are
what they were, and of the files in memory only the source of the unit is another. What held a module is left
alone. But this is not to say that nothing has happened. An artifact that is active under the very name is
tried first, and if it cannot be used, its body has been run; and a body may change the objects of the units
that it imports.

* `rejection_atomic` — **what a rejection leaves behind**;
* `rejection_runs` — a rejection after which a loaded unit is not what it was.
-/

namespace UnitFoundry.Compiler

open Script Text Standard

variable {read : Reader} {name source : String} {s t : Session} {e : FoundryError}

/-- **A rejection is atomic.** Whatever the policy is, and whether there was one attempt or two, a
compilation that ends with a rejection names an error that was found. No context was made or published, and
of the files in memory the source of the unit alone is another. A context that held a module is left alone,
and so are the names of its module unless they were set from outside of its body. Modules and objects are
what they were, unless the body of the unit that was active under the name has run. -/
theorem rejection_atomic (hs : s.Reachable)
    (h : compile (.reading read) name source s = .error (.error e) t) (he : isRejection e = true) :
    (∃ found, e = .rejected name found ∧ found.any Diagnostic.isError = true) ∧
      Refused name source s t ∧ ∀ id m, s.Holds id m → Session.LeftAlone id m s t := by
  obtain ⟨hfound, hrefused⟩ := refused_of_compile hs.sound he h
  refine ⟨hfound, hrefused, fun id m hheld => ?_⟩
  have hkeeps := (Session.isolatingCompiling s.Holds).keeps_compile (.reading read) name source
  exact (hkeeps.error ⟨hs.guarded, fun _ _ hheld => hheld⟩ h).2.1 id m hheld

/-! ## A body that runs once more -/

/-- Whether a result is a rejection. -/
def isRejected {α : Type} : EStateM.Result Failure Session α → Bool
  | .error (.error e) _ => isRejection e
  | _ => false

theorem exists_of_isRejected {α : Type} {result : EStateM.Result Failure Session α}
    (h : isRejected result = true) : ∃ e t, result = .error (.error e) t ∧ isRejection e = true := by
  unfold isRejected at h
  split at h
  · exact ⟨_, _, rfl, h⟩
  · cases h

/-- A unit that counts runs, which has been loaded, and one whose body fails after it has been counted. -/
def counting : Session :=
  (Session.holdingUnits [("p.N_ts1", "runs = []\n"),
    ("p.A_ts1", "import p.N as n\nn.runs.append(1)\nraise Exception\n")]).performed [.load 0]

theorem counting_reachable : counting.Reachable := (Session.holdingUnits_reachable _).performed _

theorem counting_holds : counting.Holds 0 0 := by
  have hmodule : (counting.contexts[0]?.map (·.module?)) = some (some 0) := by decide +kernel
  obtain ⟨c, hc, hm⟩ := Option.map_eq_some_iff.1 hmodule
  exact ⟨c, hc, hm⟩

/-- The items of the list that a name of a module is bound to. -/
def itemsOf? (s : Session) (m : ModuleId) (name : String) : Option (List Value) :=
  match s.modules[m]?.bind (·.get? name) with
  | some (.object id) =>
    match s.objects[id]? with
    | some (.list items) => some items
    | _ => none
  | _ => none

/-- A source is rejected for the unit whose body fails. Before, nothing was counted; now one run is. -/
theorem counting_outcome : isRejected (compile .standard "p.A_ts1" "x = \n" counting) = true ∧
    itemsOf? counting 0 "runs" = some [] ∧
    itemsOf? (leftBy (compile .standard "p.A_ts1" "x = \n" counting)) 0 "runs" = some [.whole 1] := by
  decide +kernel

theorem counting_atomic : counting.Reachable ∧ counting.Holds 0 0 ∧
    ∃ e t, compile .standard "p.A_ts1" "x = \n" counting = .error (.error e) t ∧ isRejection e = true ∧
      (∃ found, e = .rejected "p.A_ts1" found ∧ found.any Diagnostic.isError = true) ∧
      Refused "p.A_ts1" "x = \n" counting t ∧ Session.LeftAlone 0 0 counting t := by
  obtain ⟨e, t, hcompile, he⟩ := exists_of_isRejected counting_outcome.1
  obtain ⟨hfound, hrefused, halone⟩ := rejection_atomic counting_reachable hcompile he
  exact ⟨counting_reachable, counting_holds, e, t, hcompile, he, hfound, hrefused,
    halone 0 0 counting_holds⟩

/-- The list in the loaded unit is not what it was. -/
theorem rejection_runs : counting.Reachable ∧ counting.Holds 0 0 ∧
    itemsOf? counting 0 "runs" = some [] ∧
    ∃ e t, compile .standard "p.A_ts1" "x = \n" counting = .error (.error e) t ∧ isRejection e = true ∧
      itemsOf? t 0 "runs" = some [.whole 1] := by
  obtain ⟨hrejected, hnone, hcounted⟩ := counting_outcome
  obtain ⟨e, t, hcompile, he⟩ := exists_of_isRejected hrejected
  rw [hcompile] at hcounted
  exact ⟨counting_reachable, counting_holds, hnone, e, t, hcompile, he, hcounted⟩

end UnitFoundry.Compiler
