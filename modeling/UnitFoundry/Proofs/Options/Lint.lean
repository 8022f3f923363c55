import UnitFoundry.Proofs.Options

/-!
# Lint categories that are merged

An option set gets more lint categories without checks, and another target version with all of them. Categories add
up in the order in which they are first given, however they are divided among several changes, and repeating one
changes nothing. The two kinds of changes do not get in each other's way: a target version is taken or refused
whatever the categories are, and the result does not depend on which change comes first.

* `FirstOccurrences` — the elements of a list, each where it first occurs;
* `keepFirst_eraseDups`, `withLint_eq` — what is kept when more categories come to those already kept;
* `withLint_withLint`, `withLint_self` — changes of the categories one after the other;
* `withTarget_withLint` — changes of the categories and of the target version;
* `withLint_merges` — **categories are merged, and nothing else is touched**.
-/

namespace UnitFoundry

open Text

variable {α : Type}

/-! ## First occurrences -/

/-- What is left of a list has each element once, in the order in which they first occur. -/
structure FirstOccurrences [DecidableEq α] (given kept : List α) : Prop where
  nodup : kept.Nodup
  mem_iff (a : α) : a ∈ kept ↔ a ∈ given
  ordered : kept.Pairwise fun a b => given.idxOf a < given.idxOf b

theorem firstOccurrences_eraseDups [DecidableEq α] (l : List α) : FirstOccurrences l l.eraseDups :=
  ⟨nodup_eraseDups l, fun _ => List.mem_eraseDups, pairwise_idxOf_eraseDups l⟩

namespace Options

variable (o : Options) (a b : List String)

/-! ## Categories -/

/-- Where the first occurrences of some items are kept, those of more items are added to them. -/
theorem keepFirst_eraseDups (before rest : List String) :
    keepFirst before.eraseDups rest = (before ++ rest).eraseDups := by
  induction rest generalizing before with
  | nil => rw [keepFirst, List.append_nil]
  | cons item rest ih =>
    have hstep : (if before.eraseDups.contains item then before.eraseDups else before.eraseDups ++ [item]) =
        (before ++ [item]).eraseDups := by
      simp only [eraseDups_concat, List.contains_iff_mem, List.mem_eraseDups]
    calc keepFirst before.eraseDups (item :: rest)
        = keepFirst (if before.eraseDups.contains item then before.eraseDups else before.eraseDups ++ [item])
            rest := by rw [keepFirst, apply_ite (keepFirst · rest)]
      _ = keepFirst (before ++ [item]).eraseDups rest := by rw [hstep]
      _ = (before ++ item :: rest).eraseDups := by rw [ih, List.append_assoc, List.singleton_append]

theorem withLint_eq : o.withLint a = { o with lint := (o.lint ++ a).eraseDups } :=
  congrArg (fun lint => { o with lint }) (keepFirst_eraseDups [] (o.lint ++ a))

/-- Categories may be added in one change or in two. -/
theorem withLint_withLint : (o.withLint a).withLint b = o.withLint (a ++ b) := by
  have hmerged : ((o.lint ++ a).eraseDups ++ b).eraseDups = (o.lint ++ (a ++ b)).eraseDups := by
    rw [← keepFirst_eraseDups, eraseDups_eraseDups, keepFirst_eraseDups, List.append_assoc]
  simp only [withLint_eq, hmerged]

/-- Categories that are there already change nothing. -/
theorem withLint_self : (o.withLint a).withLint a = o.withLint a := by
  have hsame : (o.lint ++ (a ++ a)).eraseDups = (o.lint ++ a).eraseDups := by
    rw [← List.append_assoc]
    exact eraseDups_append_of_subset fun category h => List.mem_append_right _ h
  rw [withLint_withLint, withLint_eq, withLint_eq, hsame]

/-! ## Categories and the target version -/

/-- A change of the target version comes to the same before and after a change of the categories. -/
theorem withTarget_withLint (version : Datum) :
    (o.withLint a).withTarget version = (o.withTarget version).map (·.withLint a) := by
  rw [withTarget_eq, withTarget_eq]
  cases (orNull asTargetVersion version).under (.field "target_version") with
  | ok v => rfl
  | faulty found => rfl

/-- A version that a text spells is taken, whatever the option set, and nothing else changes. -/
theorem withTarget_of_spells {text : String} {digits : List Char} (h : SpellsVersion text digits) :
    ∃ t, o.withTarget (.text text) = .ok t ∧ t.target.map (·.text) = some text ∧ { t with target := o.target } = o := by
  obtain ⟨version, hversion⟩ := Option.isSome_iff_exists.1 (ofString?_isSome_iff.2 ⟨digits, h⟩)
  exact ⟨_, withTarget_eq_ok.2 ⟨version, hversion, rfl⟩, congrArg some (TargetVersion.text_of_ofString? hversion), rfl⟩

/-- **Lint categories are merged.** Adding them twice is adding them at once; what there is then are the categories
of the option set and those that were added, each where it first occurs; adding the same ones again changes nothing,
and no other part is touched. **A change of the target version comes to the same before and after**: every version
that a text spells is taken, and it is the only part that changes. -/
theorem withLint_merges :
    (o.withLint a).withLint b = o.withLint (a ++ b) ∧
    FirstOccurrences (o.lint ++ a ++ b) ((o.withLint a).withLint b).lint ∧
    (o.withLint a).withLint a = o.withLint a ∧
    { o.withLint a with lint := o.lint } = o ∧
    (∀ version, (o.withLint a).withTarget version = (o.withTarget version).map (·.withLint a)) ∧
    ∀ text digits, SpellsVersion text digits → ∃ t, o.withTarget (.text text) = .ok t ∧
      t.target.map (·.text) = some text ∧ { t with target := o.target } = o := by
  refine ⟨o.withLint_withLint a b, ?_, o.withLint_self a, rfl, o.withTarget_withLint a, ?_⟩
  · rw [withLint_withLint, withLint_eq, ← List.append_assoc]
    exact firstOccurrences_eraseDups _
  · exact fun text digits h => o.withTarget_of_spells h

/-- An option set that lists a category twice. -/
def repeating : Options := { optimize := .assertions, lint := ["SyntaxWarning", "ImportWarning", "SyntaxWarning"] }

/-- One category more that is new, one that is there, and a version with a line feed at its end. -/
theorem repeating_merges :
    SpellsVersion "3.9\n" ['9'] ∧ ∃ t, repeating.withTarget (.text "3.9\n") = .ok t ∧
      t.target.map (·.text) = some "3.9\n" ∧ { t with target := none } = repeating ∧
      (repeating.withLint ["UserWarning", "ImportWarning"]).withTarget (.text "3.9\n") =
        .ok (t.withLint ["UserWarning", "ImportWarning"]) ∧
      (t.withLint ["UserWarning", "ImportWarning"]).lint = ["SyntaxWarning", "ImportWarning", "UserWarning"] := by
  have hspells : SpellsVersion "3.9\n" ['9'] := ⟨by simp, by simpa using (by decide : isDecimal '9' = true), .inr rfl⟩
  obtain ⟨-, -, -, -, hcommute, htaken⟩ := withLint_merges repeating ["UserWarning", "ImportWarning"] []
  obtain ⟨t, ht, htext, hothers⟩ := htaken _ _ hspells
  have hlint : ({ t with target := none } : Options).lint = repeating.lint := congrArg Options.lint hothers
  refine ⟨hspells, t, ht, htext, hothers, ?_, ?_⟩
  · rw [hcommute, ht]
    rfl
  · show keepFirst [] (({ t with target := none } : Options).lint ++ _) = _
    rw [hlint]
    decide

end Options

end UnitFoundry
