import Mathlib.Data.List.Basic
import Mathlib.Data.List.Forall2
import Mathlib.Data.List.Induction
import Mathlib.Tactic.Common

/-!
# Lists that grow and change

The parts of a session are lists that grow at the end and are changed in one place. What is found in
such a list afterwards was there before, or is the new or the changed element.

* `getElem?_concat_cases`, `getElem?_modify_cases` — what is found in a list that has grown or changed;
* `eraseDups_concat`, `nodup_eraseDups`, `pairwise_idxOf_eraseDups` — lists without repetition;
* `getLast?_filter`, `getLast?_filterMap_concat`, `Forall₂.getLast?` — the last elements of lists that are
  filtered or go together.
-/

namespace UnitFoundry

variable {α : Type} {l : List α} {a b : α} {i j : Nat}

/-! ## Lists that have grown -/

/-- An element of a list that has grown was there before, or is the new one. -/
theorem getElem?_concat_cases (h : (l ++ [a])[i]? = some b) :
    l[i]? = some b ∨ i = l.length ∧ b = a := by
  rcases Nat.lt_or_ge i l.length with hi | hi
  · rw [List.getElem?_append_left hi] at h
    exact .inl h
  · rw [List.getElem?_append_right hi, List.getElem?_singleton] at h
    split at h
    · rename_i hzero
      exact .inr ⟨Nat.le_antisymm (Nat.sub_eq_zero_iff_le.1 hzero) hi, (Option.some.inj h).symm⟩
    · cases h

theorem modify_concat (l : List α) (a : α) (f : α → α) :
    (l ++ [a]).modify l.length f = l ++ [f a] := by
  induction l with
  | nil => rfl
  | cons b l ih => simp [ih]

/-! ## Lists that have changed -/

/-- An element of a list that was changed in one place is the changed one, or was there before. -/
theorem getElem?_modify_cases {f : α → α} (h : (l.modify i f)[j]? = some b) :
    (∃ a, i = j ∧ l[i]? = some a ∧ b = f a) ∨ i ≠ j ∧ l[j]? = some b := by
  rw [List.getElem?_modify] at h
  obtain ⟨a, ha, hb⟩ := Option.map_eq_some_iff.1 h
  by_cases hij : i = j
  · subst hij
    rw [if_pos rfl] at hb
    exact .inl ⟨a, rfl, ha, hb.symm⟩
  · rw [if_neg hij] at hb
    exact .inr ⟨hij, hb ▸ ha⟩

/-! ## Lists without repetition -/

theorem eraseDups_concat [DecidableEq α] (l : List α) (a : α) :
    (l ++ [a]).eraseDups = if a ∈ l then l.eraseDups else l.eraseDups ++ [a] := by
  rw [List.eraseDups_append]
  by_cases h : a ∈ l
  · simp [List.removeAll, h]
  · simp [List.removeAll, h, List.eraseDups_cons]

theorem nodup_eraseDups [DecidableEq α] (l : List α) : l.eraseDups.Nodup := by
  induction l using List.reverseRec with
  | nil => simp
  | append_singleton l a ih =>
    rw [eraseDups_concat]
    by_cases h : a ∈ l
    · rw [if_pos h]
      exact ih
    · rw [if_neg h, List.nodup_append]
      refine ⟨ih, by simp, ?_⟩
      intro b hb c hc
      obtain rfl := List.mem_singleton.1 hc
      rintro rfl
      exact h (List.mem_eraseDups.1 hb)

/-- The elements that are left are in the order in which they first occur. -/
theorem pairwise_idxOf_eraseDups [DecidableEq α] (l : List α) :
    l.eraseDups.Pairwise fun a b => l.idxOf a < l.idxOf b := by
  induction l using List.reverseRec with
  | nil => simp
  | append_singleton l a ih =>
    -- elements keep the places where they first occur when the list grows
    have hkept : l.eraseDups.Pairwise fun b c => (l ++ [a]).idxOf b < (l ++ [a]).idxOf c := by
      refine ih.imp_of_mem fun hb hc hlt => ?_
      rwa [List.idxOf_append_of_mem (List.mem_eraseDups.1 hb), List.idxOf_append_of_mem (List.mem_eraseDups.1 hc)]
    rw [eraseDups_concat]
    by_cases h : a ∈ l
    · rwa [if_pos h]
    · rw [if_neg h, List.pairwise_append]
      refine ⟨hkept, List.pairwise_singleton _ a, ?_⟩
      intro b hb c hc
      obtain rfl := List.mem_singleton.1 hc
      have hmem : b ∈ l := List.mem_eraseDups.1 hb
      rw [List.idxOf_append_of_mem hmem, List.idxOf_append_of_notMem h]
      exact Nat.lt_add_right _ (List.idxOf_lt_length_of_mem hmem)

theorem eraseDups_eraseDups [DecidableEq α] (l : List α) : l.eraseDups.eraseDups = l.eraseDups := by
  induction l using List.reverseRec with
  | nil => rfl
  | append_singleton l a ih =>
    rw [eraseDups_concat]
    by_cases h : a ∈ l
    · rw [if_pos h, ih]
    · rw [if_neg h, eraseDups_concat, if_neg (mt List.mem_eraseDups.1 h), ih]

/-- Elements that are there already do not count. -/
theorem eraseDups_append_of_subset [DecidableEq α] {l more : List α} (h : ∀ a ∈ more, a ∈ l) :
    (l ++ more).eraseDups = l.eraseDups := by
  have hnone : more.removeAll l = [] := by simpa [List.removeAll] using h
  rw [List.eraseDups_append, hnone, List.eraseDups_nil, List.append_nil]

/-! ## Last elements -/

/-- A last element that a filter lets through stays the last one. -/
theorem getLast?_filter {p : α → Bool} (h : l.getLast? = some a) (ha : p a = true) :
    (l.filter p).getLast? = some a := by
  obtain ⟨init, rfl⟩ := List.getLast?_eq_some_iff.1 h
  simp [List.filter_append, ha]

variable {β : Type} {r : α → β → Prop} {k : List β}

/-- What the elements of a list give, when the list grows: the new element comes last if it gives something. -/
theorem getLast?_filterMap_concat (given : α → Option β) (l : List α) (a : α) :
    ((l ++ [a]).filterMap given).getLast? = (given a).or (l.filterMap given).getLast? := by
  rw [List.filterMap_append, List.getLast?_append]
  cases ha : given a with
  | none => simp [ha]
  | some b => simp [ha]

theorem getLast?_filterMap_singleton (given : α → Option β) (a : α) :
    ([a].filterMap given).getLast? = given a := by
  cases ha : given a with
  | none => simp [ha]
  | some b => simp [ha]

/-- Of lists that go together, every element of the second goes together with one of the first. -/
theorem Forall₂.exists_of_mem {b : β} (h : List.Forall₂ r l k) (hb : b ∈ k) : ∃ a ∈ l, r a b := by
  induction h with
  | nil => cases hb
  | @cons a b l k hr _ ih =>
    rcases List.mem_cons.1 hb with rfl | hb
    · exact ⟨a, List.mem_cons_self, hr⟩
    · obtain ⟨a', ha', hr'⟩ := ih hb
      exact ⟨a', List.mem_cons_of_mem _ ha', hr'⟩

/-- The last elements of lists that go together go together. -/
theorem Forall₂.getLast? (h : List.Forall₂ r l k)
    (ha : l.getLast? = some a) : ∃ b, k.getLast? = some b ∧ r a b := by
  have hreverse := List.forall₂_reverse_iff.2 h
  rw [← List.head?_reverse] at ha ⊢
  generalize l.reverse = l at hreverse ha
  generalize k.reverse = k at hreverse
  cases hreverse with
  | nil => cases ha
  | cons hr _ =>
    obtain rfl := Option.some.inj ha
    exact ⟨_, rfl, hr⟩

end UnitFoundry
