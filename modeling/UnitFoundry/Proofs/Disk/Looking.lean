import UnitFoundry.Disk
import UnitFoundry.Proofs.Path
import Mathlib.Data.List.Nodup

/-!
# What paths lead to

A path is walked one component after the other, through directories that are there. So the walk along a path that
extends another one goes on from where the other one has led, and a walk that comes to an end has passed through
directories only.

* `walk_append` — the walk along a path in two parts;
* `walk_eq_ok` — where a walk that only goes down comes to its end;
* `locate_extended` — **where a path leads that extends another one**;
* `Disk.TooLong`, `TooLong.append` — a path that is too long to lead anywhere, and stays so with more components;
* `mem_filesBelow`, `nodup_filesBelow` — the files that are listed below a directory.
-/

namespace UnitFoundry

open Text

namespace Path

/-- A path with more components at its end. -/
def extended (p : Path) (parts : List String) : Path := { p with parts := p.parts ++ parts }

theorem append_eq_extended (p : Path) {parts : List String} (h : ∀ c ∈ parts, IsComponent c) :
    p.append (slashed parts) = p.extended parts := append_slashed p h

/-- A path does not get shorter by more components, but for the dot. -/
theorem utf8ByteSize_toString_extended (p : Path) (more : List String) (hp : p.toString ≠ ".") :
    p.toString.utf8ByteSize ≤ (p.extended more).toString.utf8ByteSize := by
  have htext {q : Path} (hq : ¬(q.slashes = 0 && q.parts.isEmpty) = true) :
      q.toString = String.ofList (List.replicate q.slashes '/') ++ slashed q.parts := if_neg hq
  have hnonempty : ¬(p.slashes = 0 && p.parts.isEmpty) = true := fun hempty => hp (if_pos hempty)
  have hlonger : ¬((p.extended more).slashes = 0 && (p.extended more).parts.isEmpty) = true := by
    intro hempty
    simp only [extended, Bool.and_eq_true, List.isEmpty_iff, List.append_eq_nil_iff] at hempty hnonempty
    exact hnonempty ⟨hempty.1, hempty.2.1⟩
  rw [htext hnonempty, htext hlonger, String.utf8ByteSize_append, String.utf8ByteSize_append]
  exact Nat.add_le_add_left (utf8ByteSize_slashed_append p.parts more) _

end Path

namespace Disk

variable {d : Disk} {p : Path} {here place : List String} {parts first rest : List String} {node : Node}

/-! ## Walks -/

theorem walk_append (d : Disk) (here first rest : List String) :
    d.walk here (first ++ rest) = (d.walk here first >>= fun place => d.walk place rest) := by
  induction first generalizing here with
  | nil => rfl
  | cons part first ih =>
    rw [List.cons_append, walk, walk]
    split
    · split
      · rfl
      · exact ih _
    · rfl
    · rfl

/-- A walk that only goes down ends at the place that its components say. -/
theorem walk_eq_ok (hdown : ".." ∉ parts) (h : d.walk here parts = .ok place) : place = here ++ parts := by
  induction parts generalizing here with
  | nil =>
    cases h
    exact (List.append_nil _).symm
  | cons part parts ih =>
    simp only [List.mem_cons, not_or] at hdown
    rw [walk] at h
    split at h
    · split at h
      · cases h
      · rw [if_neg (Ne.symm hdown.1)] at h
        rw [ih hdown.2 h, List.append_assoc]
        rfl
    · cases h
    · cases h

/-- A walk down through directories comes to its end, unless some name is too long. -/
theorem walk_of_directories (hdown : ".." ∉ parts)
    (habove : ∀ place, place <+: here ++ parts → d.get? place = some .directory) :
    d.walk here parts = .ok (here ++ parts) ∨ d.walk here parts = .error .nameTooLong := by
  induction parts generalizing here with
  | nil => exact .inl (by rw [walk, List.append_nil])
  | cons part parts ih =>
    simp only [List.mem_cons, not_or] at hdown
    rw [walk, habove here (List.prefix_append here _)]
    dsimp only
    split
    · exact .inr rfl
    · have hrest := @ih (here ++ [part]) hdown.2 (by rwa [List.append_assoc])
      rwa [if_neg (Ne.symm hdown.1), List.append_cons here part parts]

/-- A walk goes on from directories only. -/
theorem directory_of_walk (hdown : ".." ∉ first) (hrest : rest ≠ [])
    (h : d.walk here (first ++ rest) = .ok place) : d.get? (here ++ first) = some .directory := by
  rw [walk_append] at h
  cases hfirst : d.walk here first with
  | error r =>
    rw [hfirst] at h
    cases h
  | ok middle =>
    rw [hfirst] at h
    obtain rfl := walk_eq_ok hdown hfirst
    cases rest with
    | nil => exact absurd rfl hrest
    | cons part rest =>
      change d.walk (here ++ first) (part :: rest) = _ at h
      rw [walk] at h
      split at h
      · assumption
      · cases h
      · cases h

/-! ## Paths -/

/-- A path that has too many bytes itself, or in the name of a place on its way. -/
def TooLong (d : Disk) (p : Path) : Prop := d.locate p = .error .nameTooLong

instance (d : Disk) (p : Path) : Decidable (d.TooLong p) :=
  match h : d.locate p with
  | .error .nameTooLong => isTrue h
  | .ok _ => isFalse (by simp [TooLong, h])
  | .error .noEntry => isFalse (by simp [TooLong, h])
  | .error .exists => isFalse (by simp [TooLong, h])
  | .error .notDirectory => isFalse (by simp [TooLong, h])
  | .error .isDirectory => isFalse (by simp [TooLong, h])

theorem locate_eq_ok (h : d.locate p = .ok place) :
    d.walk (if p.isAbsolute then [] else d.here) p.parts = .ok place := by
  unfold locate at h
  split at h
  · cases h
  · exact h

/-- **A path that extends another one goes on from where that leads**, unless it is too long. -/
theorem locate_extended (h : d.locate p = .ok place) (parts : List String) :
    d.locate (p.extended parts) =
      if pathLimit < (p.extended parts).toString.utf8ByteSize then .error .nameTooLong
      else d.walk place parts := by
  have hwalk : d.walk (if (p.extended parts).isAbsolute then [] else d.here) (p.extended parts).parts =
      d.walk place parts := by
    show d.walk (if p.isAbsolute then [] else d.here) (p.parts ++ parts) = _
    rw [walk_append, locate_eq_ok h]
    rfl
  rw [locate, hwalk]

/-- The place that a path leads to which only goes down from another one. -/
theorem locate_extended_eq_ok (h : d.locate p = .ok place) (hdown : ".." ∉ parts) {target : List String}
    (htarget : d.locate (p.extended parts) = .ok target) :
    d.walk place parts = .ok target ∧ target = place ++ parts := by
  rw [locate_extended h] at htarget
  split at htarget
  · cases htarget
  · exact ⟨htarget, walk_eq_ok hdown htarget⟩

/-- A path that is too long stays so with more components. -/
theorem TooLong.append (h : d.TooLong (p.extended first)) (rest : List String) :
    d.TooLong (p.extended (first ++ rest)) := by
  have hparts : (p.extended (first ++ rest)) = (p.extended first).extended rest := by
    simp only [Path.extended, List.append_assoc]
  rw [hparts, TooLong, locate]
  by_cases hlimit : pathLimit < (p.extended first).toString.utf8ByteSize
  · have hdot : (p.extended first).toString ≠ "." := fun hdot => absurd (hdot ▸ hlimit) (by decide)
    rw [if_pos (hlimit.trans_le (Path.utf8ByteSize_toString_extended _ rest hdot))]
  · rw [TooLong, locate, if_neg hlimit] at h
    split
    · rfl
    · show d.walk _ ((p.extended first).parts ++ rest) = _
      rw [walk_append, show d.walk (if ((p.extended first).extended rest).isAbsolute then [] else d.here) _ = _ from h]
      rfl
theorem hasNull_extended (hp : hasNull p = false) (h : ∀ c ∈ parts, Path.IsComponent c) :
    hasNull (p.extended parts) = false := by
  simp only [hasNull, Path.extended, List.any_append, Bool.or_eq_false_iff]
  refine ⟨hp, ?_⟩
  rw [List.any_eq_false]
  intro c hc
  simpa using (h c hc).null

/-- What a path leads to is found by looking, and the other way round. -/
theorem node?_eq_some (h : d.node? p = some node) :
    hasNull p = false ∧ ∃ place, d.locate p = .ok place ∧ d.get? place = some node := by
  unfold node? at h
  split at h
  · cases h
  · rename_i hnull
    refine ⟨by simpa using hnull, ?_⟩
    split at h
    · rename_i place hplace
      exact ⟨place, hplace, h⟩
    · cases h

/-- A path that is not too long is looked up without failure. -/
theorem look_of_not_tooLong (h : ¬ d.TooLong p) : d.look p = .ok (d.node? p) := by
  unfold look node?
  by_cases hnull : hasNull p = true
  · rw [if_pos hnull, if_pos hnull]
  rw [if_neg hnull, if_neg hnull]
  cases hplace : d.locate p with
  | ok place => rfl
  | error r =>
    cases r with
    | nameTooLong => exact absurd hplace h
    | _ => rfl

theorem look_of_tooLong (hnull : hasNull p = false) (h : d.TooLong p) :
    d.look p = .error (Refusal.nameTooLong.raised p) := by
  rw [look, hnull, if_neg Bool.false_ne_true, show d.locate p = .error .nameTooLong from h]

theorem mem_nodes_of_get? (hplace : place ≠ []) (h : d.get? place = some node) : (place, node) ∈ d.nodes := by
  obtain ⟨part, rest, rfl⟩ := List.exists_cons_of_ne_nil hplace
  obtain ⟨⟨found, _⟩, hfind, rfl⟩ := Option.map_eq_some_iff.1 h
  obtain rfl : found = part :: rest := by simpa using List.find?_some hfind
  exact List.mem_of_find?_eq_some hfind

/-! ## What is below a directory -/

theorem mem_below : (parts, node) ∈ d.below place ↔ parts ≠ [] ∧ (place ++ parts, node) ∈ d.nodes := by
  rw [below, (List.mergeSort_perm _ _).mem_iff, List.mem_map]
  simp only [List.mem_filter, isBelow, Bool.and_eq_true, List.isPrefixOf_iff_prefix, decide_eq_true_eq]
  constructor
  · rintro ⟨⟨_, _⟩, ⟨hmem, ⟨rest, rfl⟩, hlonger⟩, heq⟩
    rw [List.drop_left, Prod.mk.injEq] at heq
    obtain ⟨rfl, rfl⟩ := heq
    rw [List.length_append] at hlonger
    exact ⟨List.ne_nil_of_length_pos (by omega), hmem⟩
  · rintro ⟨hne, hmem⟩
    have hpos := List.length_pos_of_ne_nil hne
    refine ⟨_, ⟨hmem, List.prefix_append _ _, ?_⟩, by rw [List.drop_left]⟩
    rw [List.length_append]
    omega

theorem nodup_below (hunique : (d.nodes.map (·.1)).Nodup) (place : List String) :
    ((d.below place).map (·.1)).Nodup := by
  rw [below, ((List.mergeSort_perm _ _).map _).nodup_iff, List.map_map]
  have hfiltered : ((d.nodes.filter fun n => isBelow place n.1).map (·.1)).Nodup :=
    hunique.sublist (List.filter_sublist.map _)
  rw [show ((·.1) ∘ fun n : List String × Node => (n.1.drop place.length, n.2)) = List.drop place.length ∘ (·.1)
    from rfl, ← List.map_map]
  refine hfiltered.map_on fun a ha b hb hab => ?_
  have hprefix {x : List String} (hx : x ∈ (d.nodes.filter fun n => isBelow place n.1).map (·.1)) :
      place ++ x.drop place.length = x := by
    obtain ⟨n, hn, rfl⟩ := List.mem_map.1 hx
    have hbelow := (List.mem_filter.1 hn).2
    simp only [isBelow, Bool.and_eq_true, List.isPrefixOf_iff_prefix] at hbelow
    obtain ⟨rest, hrest⟩ := hbelow.1
    rw [← hrest, List.drop_left]
  rw [← hprefix ha, hab, hprefix hb]

variable {recurse : Bool}

theorem filesBelow_eq (h : d.locate p = .ok place) (recurse : Bool) : d.filesBelow p recurse =
    ((d.below place).filter fun n => n.2 ≠ .directory ∧ (recurse = true ∨ n.1.length = 1)).map (·.1) := by
  rw [filesBelow, h, ← List.filterMap_eq_map, List.filterMap_filter]
  refine List.filterMap_congr fun n _ => ?_
  obtain ⟨parts, node⟩ := n
  cases node <;> simp [Bool.or_eq_true]

/-- The files that are listed below a directory. -/
theorem mem_filesBelow (h : d.locate p = .ok place) : parts ∈ d.filesBelow p recurse ↔
    parts ≠ [] ∧ (recurse = true ∨ parts.length = 1) ∧ ∃ node, node ≠ .directory ∧ (place ++ parts, node) ∈ d.nodes := by
  rw [filesBelow_eq h, List.mem_map]
  simp only [List.mem_filter, decide_eq_true_eq]
  constructor
  · rintro ⟨⟨_, node⟩, ⟨hmem, hfile, hdepth⟩, rfl⟩
    obtain ⟨hne, hmem⟩ := mem_below.1 hmem
    exact ⟨hne, hdepth, node, hfile, hmem⟩
  · rintro ⟨hne, hdepth, node, hfile, hmem⟩
    exact ⟨_, ⟨mem_below.2 ⟨hne, hmem⟩, hfile, hdepth⟩, rfl⟩

theorem nodup_filesBelow (hunique : (d.nodes.map (·.1)).Nodup) (h : d.locate p = .ok place) (recurse : Bool) :
    (d.filesBelow p recurse).Nodup := by
  rw [filesBelow_eq h]
  exact (nodup_below hunique place).sublist (List.filter_sublist.map _)

end Disk

end UnitFoundry
