import UnitFoundry.Proofs.Disk.Looking

/-!
# Parts of the tree

What paths around a place lead to depends only on what stands around this place: on the directories above it and on
all that is below it. What is changed below another directory, none of the two being inside the other, makes no
difference.

* `Disk.SameAround` — two trees are the same around a place;
* `SameAround.look_eq`, `SameAround.filesBelow_eq` — **then paths below the place lead to the same**;
* `Disk.Grown` — a tree in which files and directories have been changed below a directory only;
* `Grown.put`, `Grown.delete` — the changes by which trees grow;
* `Grown.sameAround` — **a tree that has grown elsewhere is the same around a place**.
-/

namespace UnitFoundry.Disk

open Text

variable {d e f : Disk} {p : Path} {root region place here parts : List String} {node : Node}

/-! ## Around a place -/

/-- Whether one of two places leads to the other. -/
def isAround (place other : List String) : Bool := other.isPrefixOf place || place.isPrefixOf other

theorem isAround_iff {other : List String} : isAround place other = true ↔ other <+: place ∨ place <+: other := by
  simp [isAround, List.isPrefixOf_iff_prefix]

/-- What leads to a place around another one is around that, too. -/
theorem isAround_of_append (h : isAround region (here ++ parts) = true) : isAround region here = true := by
  rw [isAround_iff] at h ⊢
  rcases h with habove | hbelow
  · exact .inl ((List.prefix_append here parts).trans habove)
  · exact (List.prefix_or_prefix_of_prefix hbelow (List.prefix_append here parts)).symm

/-- An absolute path that only goes down leads to the place that it says. -/
theorem eq_of_locate (habsolute : p.isAbsolute = true) (hdown : ".." ∉ p.parts) (h : d.locate p = .ok place) :
    place = p.parts := by
  have hwalk := locate_eq_ok h
  rw [if_pos habsolute] at hwalk
  exact walk_eq_ok hdown hwalk

/-- Two trees have the same nodes around a place. -/
def SameAround (place : List String) (d e : Disk) : Prop :=
  (d.nodes.filter fun n => isAround place n.1) = e.nodes.filter fun n => isAround place n.1

namespace SameAround

theorem refl (place : List String) (d : Disk) : SameAround place d d := rfl

theorem symm (h : SameAround place d e) : SameAround place e d := Eq.symm h

theorem trans (h : SameAround place d e) (h' : SameAround place e f) : SameAround place d f := Eq.trans h h'

theorem mem_iff {n : List String × Node} (h : SameAround place d e) (hn : isAround place n.1 = true) :
    n ∈ d.nodes ↔ n ∈ e.nodes := by
  have hmem : n ∈ (d.nodes.filter fun n => isAround place n.1) ↔
      n ∈ e.nodes.filter fun n => isAround place n.1 := by
    rw [show (d.nodes.filter fun n => isAround place n.1) = _ from h]
  simpa [List.mem_filter, hn] using hmem

theorem get?_eq (h : SameAround region d e) (hplace : isAround region place = true) :
    d.get? place = e.get? place := by
  cases place with
  | nil => rfl
  | cons part rest =>
    have hfind (f : Disk) : f.nodes.find? (·.1 = part :: rest) =
        (f.nodes.filter fun n => isAround region n.1).find? (·.1 = part :: rest) := by
      rw [List.find?_filter]
      congr 1
      funext n
      by_cases hn : n.1 = part :: rest
      · simp [hn, hplace]
      · simp [hn]
    show (d.nodes.find? _).map _ = (e.nodes.find? _).map _
    rw [hfind d, hfind e, show (d.nodes.filter fun n => isAround region n.1) = _ from h]

/-- A walk that goes down around the place. -/
theorem walk_eq (h : SameAround region d e) (hdown : ".." ∉ parts)
    (hplace : isAround region (here ++ parts) = true) : d.walk here parts = e.walk here parts := by
  induction parts generalizing here with
  | nil => rfl
  | cons part rest ih =>
    simp only [List.mem_cons, not_or] at hdown
    have hrest : d.walk (here ++ [part]) rest = e.walk (here ++ [part]) rest :=
      ih hdown.2 (by rw [List.append_assoc]; exact hplace)
    rw [walk, walk, h.get?_eq (isAround_of_append hplace), if_neg (Ne.symm hdown.1), hrest]

theorem locate_eq (h : SameAround region d e) (habsolute : p.isAbsolute = true) (hdown : ".." ∉ p.parts)
    (hplace : isAround region p.parts = true) : d.locate p = e.locate p := by
  have hwalk : d.walk [] p.parts = e.walk [] p.parts := h.walk_eq hdown hplace
  rw [locate, locate, if_pos habsolute, if_pos habsolute, hwalk]

/-- **A path around the place leads to the same.** -/
theorem look_eq (h : SameAround region d e) (habsolute : p.isAbsolute = true) (hdown : ".." ∉ p.parts)
    (hplace : isAround region p.parts = true) : d.look p = e.look p := by
  unfold look
  rw [h.locate_eq habsolute hdown hplace]
  cases hlocated : e.locate p with
  | ok found =>
    dsimp only
    rw [eq_of_locate habsolute hdown hlocated, h.get?_eq hplace]
  | error r => cases r <;> rfl

theorem node?_eq (h : SameAround region d e) (habsolute : p.isAbsolute = true) (hdown : ".." ∉ p.parts)
    (hplace : isAround region p.parts = true) : d.node? p = e.node? p := by
  unfold node?
  rw [h.locate_eq habsolute hdown hplace]
  cases hlocated : e.locate p with
  | ok found =>
    dsimp only
    rw [eq_of_locate habsolute hdown hlocated, h.get?_eq hplace]
  | error r => rfl

/-- **The same files are below a directory** that is below the place. -/
theorem filesBelow_eq (h : SameAround region d e) (habsolute : p.isAbsolute = true) (hdown : ".." ∉ p.parts)
    (hplace : region <+: p.parts) (recurse : Bool) : d.filesBelow p recurse = e.filesBelow p recurse := by
  have hbelow : d.below p.parts = e.below p.parts := by
    have hnodes (f : Disk) : (f.nodes.filter fun n => isBelow p.parts n.1) =
        (f.nodes.filter fun n => isAround region n.1).filter fun n => isBelow p.parts n.1 := by
      rw [List.filter_filter]
      refine List.filter_congr fun n _ => ?_
      cases hn : isBelow p.parts n.1 with
      | false => rfl
      | true =>
        simp only [isBelow, Bool.and_eq_true, List.isPrefixOf_iff_prefix] at hn
        rw [isAround_iff.2 (.inr (hplace.trans hn.1))]
        rfl
    unfold below
    rw [hnodes d, hnodes e, show (d.nodes.filter fun n => isAround region n.1) = _ from h]
  unfold filesBelow
  rw [h.locate_eq habsolute hdown (isAround_iff.2 (.inr hplace))]
  cases hlocated : e.locate p with
  | ok found =>
    dsimp only
    rw [eq_of_locate habsolute hdown hlocated, hbelow]
  | error r => rfl

end SameAround

/-! ## Trees that grow -/

/-- A tree that has been changed below a directory only, and in which every directory is still one. -/
structure Grown (root : List String) (d e : Disk) : Prop where
  here : e.here = d.here
  outside : (e.nodes.filter fun n => !root.isPrefixOf n.1) = d.nodes.filter fun n => !root.isPrefixOf n.1
  directories : ∀ place, d.get? place = some .directory → e.get? place = some .directory

theorem get?_put (hplace : place ≠ []) (d : Disk) (node : Node) : (d.put place node).get? place = some node := by
  obtain ⟨part, rest, rfl⟩ := List.exists_cons_of_ne_nil hplace
  show ((d.put (part :: rest) node).nodes.find? _).map _ = _
  unfold put
  split
  · rename_i hany
    obtain ⟨n, hn, hplace⟩ := List.any_eq_true.1 hany
    rw [List.find?_map]
    cases hfind : d.nodes.find? (((fun m : List String × Node => decide (m.1 = part :: rest)) ∘
        fun x => if x.1 = part :: rest then (x.1, node) else (x.1, x.2))) with
    | none =>
      have hnot := List.find?_eq_none.1 hfind n hn
      simp only [decide_eq_true_eq] at hplace
      simp [hplace] at hnot
    | some m =>
      have hm := List.find?_some hfind
      simp only [Function.comp_apply, decide_eq_true_eq] at hm
      split at hm
      · rename_i hfirst
        simp [hfirst]
      · exact absurd hm ‹_›
  · rename_i hany
    have hnone : d.nodes.find? (fun n => decide (n.1 = part :: rest)) = none := by
      rw [List.find?_eq_none]
      intro n hn hplace
      exact hany (List.any_eq_true.2 ⟨n, hn, hplace⟩)
    rw [List.find?_append, hnone]
    simp

theorem get?_put_of_ne (h : place ≠ here) (d : Disk) (node : Node) :
    (d.put here node).get? place = d.get? place := by
  cases place with
  | nil => rfl
  | cons part rest =>
    show ((d.put here node).nodes.find? _).map _ = (d.nodes.find? _).map _
    unfold put
    split
    · induction d.nodes with
      | nil => rfl
      | cons n nodes ih =>
        rw [List.map_cons, List.find?_cons, List.find?_cons]
        by_cases hn : n.1 = here
        · have hne : n.1 ≠ part :: rest := fun heq => h (heq.symm.trans hn)
          simpa [hn, hne, Ne.symm h] using ih
        · by_cases hp : n.1 = part :: rest
          · simp [hp, h]
          · simpa [hn, hp] using ih
    · rw [List.find?_append]
      have hnone : [(here, node)].find? (fun n => decide (n.1 = part :: rest)) = none := by
        simp [Ne.symm h]
      rw [hnone, Option.or_none]

theorem get?_delete (hplace : place ≠ []) (d : Disk) : (d.delete place).get? place = none := by
  obtain ⟨part, rest, rfl⟩ := List.exists_cons_of_ne_nil hplace
  show ((d.nodes.filter _).find? _).map _ = _
  rw [List.find?_filter, Option.map_eq_none_iff, List.find?_eq_none]
  simp

theorem get?_delete_of_ne (h : place ≠ here) (d : Disk) : (d.delete here).get? place = d.get? place := by
  cases place with
  | nil => rfl
  | cons part rest =>
    show ((d.nodes.filter _).find? _).map _ = (d.nodes.find? _).map _
    rw [List.find?_filter]
    congr 2
    funext n
    by_cases hn : n.1 = part :: rest
    · simp [hn, h]
    · simp [hn]

namespace Grown

theorem refl (root : List String) (d : Disk) : Grown root d d := ⟨rfl, rfl, fun _ h => h⟩

theorem trans (h : Grown root d e) (h' : Grown root e f) : Grown root d f :=
  ⟨h'.here.trans h.here, h'.outside.trans h.outside, fun place hd => h'.directories place (h.directories place hd)⟩

/-- A node is put below the directory, and none that is a directory is replaced by something else. -/
theorem put (hplace : root <+: place) (hne : place ≠ [])
    (hnode : node = .directory ∨ d.get? place ≠ some .directory) : Grown root d (d.put place node) where
  here := by
    unfold Disk.put
    split <;> rfl
  outside := by
    have hinside : (!root.isPrefixOf place) = false := by
      rw [Bool.not_eq_false', List.isPrefixOf_iff_prefix]
      exact hplace
    unfold Disk.put
    split
    · induction d.nodes with
      | nil => rfl
      | cons n nodes ih =>
        obtain ⟨other, found⟩ := n
        by_cases hn : other = place
        · simpa [List.filter_cons, hn, hinside] using ih
        · simp only [List.map_cons, List.filter_cons, if_neg hn]
          split
          · exact congrArg _ ih
          · exact ih
    · rw [List.filter_append]
      simp [hinside]
  directories other hother := by
    by_cases heq : other = place
    · subst heq
      rw [get?_put hne]
      rcases hnode with rfl | hnot
      · rfl
      · exact absurd hother hnot
    · rw [get?_put_of_ne heq]
      exact hother

/-- A node below the directory is taken away that is no directory itself. -/
theorem delete (hplace : root <+: place) (hnode : d.get? place ≠ some .directory) : Grown root d (d.delete place) where
  here := rfl
  outside := by
    show List.filter _ (List.filter _ _) = _
    rw [List.filter_filter]
    refine List.filter_congr fun n _ => ?_
    by_cases hn : n.1 = place
    · have hstart : root.isPrefixOf n.1 = true := by
        rw [hn, List.isPrefixOf_iff_prefix]
        exact hplace
      simp [hstart]
    · simp [hn]
  directories other hother := by
    have hne : other ≠ place := by
      rintro rfl
      exact hnode hother
    rw [get?_delete_of_ne hne]
    exact hother

/-- A walk that has come to an end comes to it again. -/
theorem walk_eq_ok (h : Grown root d e) (hwalk : d.walk here parts = .ok place) : e.walk here parts = .ok place := by
  induction parts generalizing here with
  | nil => exact hwalk
  | cons part rest ih =>
    rw [walk] at hwalk ⊢
    split at hwalk
    · rename_i hdirectory
      rw [h.directories here hdirectory]
      dsimp only
      split at hwalk
      · cases hwalk
      · rename_i hshort
        rw [if_neg hshort]
        exact ih hwalk
    · cases hwalk
    · cases hwalk

theorem locate_eq_ok (h : Grown root d e) (hlocate : d.locate p = .ok place) : e.locate p = .ok place := by
  unfold locate at hlocate ⊢
  split at hlocate
  · cases hlocate
  · rename_i hshort
    rw [if_neg hshort, h.here]
    exact h.walk_eq_ok hlocate

/-- **Around a place that has nothing to do with the directory nothing is different.** -/
theorem sameAround (h : Grown root d e) (hapart : isAround root place = false) : SameAround place d e := by
  have hnodes (f : Disk) : (f.nodes.filter fun n => isAround place n.1) =
      (f.nodes.filter fun n => !root.isPrefixOf n.1).filter fun n => isAround place n.1 := by
    rw [List.filter_filter]
    refine List.filter_congr fun n _ => ?_
    cases hn : isAround place n.1 with
    | false => rfl
    | true =>
      have hout : root.isPrefixOf n.1 = false := by
        rw [Bool.eq_false_iff]
        intro hstart
        rw [List.isPrefixOf_iff_prefix] at hstart
        refine Bool.eq_false_iff.1 hapart (isAround_iff.2 ?_)
        rcases isAround_iff.1 hn with habove | hbelow
        · exact .inr (hstart.trans habove)
        · exact List.prefix_or_prefix_of_prefix hbelow hstart
      simp [hout]
  show (d.nodes.filter _) = e.nodes.filter _
  rw [hnodes d, hnodes e, h.outside]

end Grown

end UnitFoundry.Disk
