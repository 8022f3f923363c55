import UnitFoundry.Text.Split
import Mathlib.Data.List.Infix
import Mathlib.Tactic.Common

/-!
# Pieces of a text

A text that is cut at separators is found again when its pieces are joined, and pieces that are joined are found
again when they have no separators of their own. So a text begins with some pieces exactly if its own pieces do.

* `joinWith_splitOn`, `splitOn_joinWith` — **cut and joined, joined and cut**;
* `splitOn_append`, `joinWith_append` — a text in two parts, with a separator between them;
* `mem_iff_length_splitOn` — texts without separators;
* `cutFirst_append`, `cutFirst_spec` — a text cut at its first separator;
* `cutLast_append`, `exists_last_of_mem` — a text cut at its last separator;
* `replaceChar_joinWith` — another separator;
* `dropStart?_eq_some`, `dropSuffix?_eq_some` — a text without its start or its end.
-/

namespace UnitFoundry.Text

variable {sep c : Char} {s t rest start suffix : List Char} {pieces more : List (List Char)}

/-! ## Joining -/

theorem joinWith_eq_intercalate (sep : Char) (pieces : List (List Char)) :
    joinWith sep pieces = List.intercalate [sep] pieces := by
  induction pieces with
  | nil => rfl
  | cons piece rest ih =>
    cases rest with
    | nil => simp [joinWith]
    | cons next rest => simp [joinWith, ih]

theorem joinWith_cons_cons (sep c : Char) (piece : List Char) (pieces : List (List Char)) :
    joinWith sep ((c :: piece) :: pieces) = c :: joinWith sep (piece :: pieces) := by
  cases pieces <;> rfl

/-- Pieces in two parts. -/
theorem joinWith_append (hpieces : pieces ≠ []) (hmore : more ≠ []) :
    joinWith sep (pieces ++ more) = joinWith sep pieces ++ sep :: joinWith sep more := by
  induction pieces with
  | nil => exact absurd rfl hpieces
  | cons piece rest ih =>
    cases rest with
    | nil =>
      obtain ⟨next, rest, rfl⟩ := List.exists_cons_of_ne_nil hmore
      rfl
    | cons next rest =>
      have htail := ih (by simp)
      rw [List.cons_append] at htail
      simp [joinWith, htail]

/-! ## Cutting -/

/-- A text is cut where the separator stands first. -/
theorem cutFirst_append {before after : List Char} (h : sep ∉ before) :
    cutFirst sep (before ++ sep :: after) = (before, after) := by
  induction before with
  | nil => simp [cutFirst]
  | cons c before ih =>
    simp only [List.mem_cons, not_or] at h
    rw [List.cons_append, cutFirst, if_neg (Ne.symm h.1), ih h.2]

theorem cutFirst_spec (h : sep ∈ s) :
    s = (cutFirst sep s).1 ++ sep :: (cutFirst sep s).2 ∧ sep ∉ (cutFirst sep s).1 := by
  induction s with
  | nil => cases h
  | cons c rest ih =>
    by_cases hc : c = sep
    · simp [cutFirst, hc]
    · obtain ⟨hrest, hbefore⟩ := ih ((List.mem_cons.1 h).resolve_left (Ne.symm hc))
      rw [cutFirst, if_neg hc]
      exact ⟨congrArg (c :: ·) hrest, by simpa using ⟨Ne.symm hc, hbefore⟩⟩

theorem exists_splitOn (sep : Char) (s : List Char) :
    ∃ pieces, splitOn sep s = (cutFirst sep s).1 :: pieces := by
  induction s with
  | nil => exact ⟨[], rfl⟩
  | cons c rest ih =>
    obtain ⟨pieces, hpieces⟩ := ih
    by_cases hc : c = sep
    · exact ⟨splitOn sep rest, by simp [splitOn, cutFirst, hc]⟩
    · exact ⟨pieces, by simp [splitOn, cutFirst, hc, hpieces]⟩

theorem splitOn_ne_nil (sep : Char) (s : List Char) : splitOn sep s ≠ [] := by
  obtain ⟨pieces, h⟩ := exists_splitOn sep s
  rw [h]
  exact List.cons_ne_nil _ _

theorem joinWith_splitOn (sep : Char) (s : List Char) : joinWith sep (splitOn sep s) = s := by
  induction s with
  | nil => rfl
  | cons c rest ih =>
    obtain ⟨pieces, hpieces⟩ := exists_splitOn sep rest
    rw [hpieces] at ih
    by_cases hc : c = sep
    · rw [splitOn, if_pos hc, hpieces, joinWith, ih, hc, List.nil_append]
    · simp only [splitOn, if_neg hc, hpieces, joinWith_cons_cons, ih]

/-- A text without separators is one piece. -/
theorem splitOn_of_notMem (h : sep ∉ s) : splitOn sep s = [s] := by
  induction s with
  | nil => rfl
  | cons c s ih =>
    simp only [List.mem_cons, not_or] at h
    simp [splitOn, Ne.symm h.1, ih h.2]

/-- The pieces of a text in two parts, with a separator between them. -/
theorem splitOn_append (sep : Char) (s t : List Char) :
    splitOn sep (s ++ sep :: t) = splitOn sep s ++ splitOn sep t := by
  induction s with
  | nil => simp [splitOn]
  | cons c s ih =>
    obtain ⟨pieces, hpieces⟩ := exists_splitOn sep s
    rw [hpieces] at ih
    by_cases hc : c = sep
    · simp [splitOn, hc, ih, hpieces]
    · simp [splitOn, hc, ih, hpieces]

/-- Pieces that are joined are found again. -/
theorem splitOn_joinWith (hne : pieces ≠ []) (h : ∀ piece ∈ pieces, sep ∉ piece) :
    splitOn sep (joinWith sep pieces) = pieces := by
  induction pieces with
  | nil => exact absurd rfl hne
  | cons piece rest ih =>
    have hpiece := splitOn_of_notMem (h piece (by simp))
    cases rest with
    | nil => exact hpiece
    | cons next rest =>
      rw [joinWith, splitOn_append, hpiece, ih (by simp) fun other hother => h other (by simp [hother])]
      rfl

/-- A text with separators has several pieces. -/
theorem mem_iff_length_splitOn : sep ∈ s ↔ (splitOn sep s).length ≠ 1 := by
  constructor
  · intro h
    obtain ⟨before, after, rfl⟩ := List.append_of_mem h
    obtain ⟨first, hfirst⟩ := exists_splitOn sep before
    obtain ⟨second, hsecond⟩ := exists_splitOn sep after
    simp [splitOn_append, hfirst, hsecond]
  · intro h
    by_contra hnone
    exact h (by simp [splitOn_of_notMem hnone])

/-- No piece has a separator in it. -/
theorem notMem_of_mem_splitOn {piece : List Char} (h : piece ∈ splitOn sep s) : sep ∉ piece := by
  induction s generalizing piece with
  | nil =>
    obtain rfl := List.mem_singleton.1 h
    exact List.not_mem_nil
  | cons c s ih =>
    obtain ⟨pieces, hpieces⟩ := exists_splitOn sep s
    by_cases hc : c = sep
    · rw [splitOn, if_pos hc] at h
      rcases List.mem_cons.1 h with rfl | h
      · exact List.not_mem_nil
      · exact ih h
    · simp only [splitOn, if_neg hc, hpieces] at h ih
      rcases List.mem_cons.1 h with rfl | h
      · exact List.not_mem_cons_of_ne_of_not_mem (Ne.symm hc) (ih List.mem_cons_self)
      · exact ih (List.mem_cons_of_mem _ h)

/-- Each piece is a part of the text. -/
theorem sublist_of_mem_splitOn {piece : List Char} (h : piece ∈ splitOn sep s) : piece.Sublist s := by
  induction s generalizing piece with
  | nil =>
    obtain rfl := List.mem_singleton.1 h
    exact .slnil
  | cons c s ih =>
    obtain ⟨pieces, hpieces⟩ := exists_splitOn sep s
    by_cases hc : c = sep
    · rw [splitOn, if_pos hc] at h
      rcases List.mem_cons.1 h with rfl | h
      · exact List.nil_sublist _
      · exact (ih h).cons c
    · simp only [splitOn, if_neg hc, hpieces] at h ih
      rcases List.mem_cons.1 h with rfl | h
      · exact (ih List.mem_cons_self).cons_cons c
      · exact (ih (List.mem_cons_of_mem _ h)).cons c

theorem notMem_joinWith (hc : c ≠ sep) (h : ∀ piece ∈ pieces, c ∉ piece) : c ∉ joinWith sep pieces := by
  induction pieces with
  | nil => exact List.not_mem_nil
  | cons piece rest ih =>
    have hpiece := h piece List.mem_cons_self
    have hrest := ih fun other hother => h other (List.mem_cons_of_mem _ hother)
    cases rest with
    | nil => exact hpiece
    | cons next rest =>
      rw [joinWith, List.mem_append, List.mem_cons]
      rintro (hmem | rfl | hmem)
      · exact hpiece hmem
      · exact hc rfl
      · exact hrest hmem

/-- What is no separator is in some piece. -/
theorem exists_mem_splitOn (h : c ∈ s) (hc : c ≠ sep) : ∃ piece ∈ splitOn sep s, c ∈ piece := by
  by_contra hnone
  refine notMem_joinWith hc (fun piece hpiece hmem => hnone ⟨piece, hpiece, hmem⟩) ?_
  rw [joinWith_splitOn]
  exact h

/-- What stands before the last separator is a part of the text. -/
theorem mem_of_mem_cutLast (h : c ∈ (cutLast sep s).1) : c ∈ s := by
  induction s with
  | nil => exact h
  | cons d s ih =>
    rw [cutLast] at h
    split at h
    · rcases List.mem_cons.1 h with rfl | h
      · exact List.mem_cons_self
      · exact List.mem_cons_of_mem d (ih h)
    · split at h
      · cases h
      · cases h

theorem cutLast_of_notMem (h : sep ∉ s) : cutLast sep s = ([], s) := by
  cases s with
  | nil => rfl
  | cons c rest =>
    simp only [List.mem_cons, not_or] at h
    rw [cutLast, if_neg (by simpa using h.2), if_neg (Ne.symm h.1)]

theorem cutLast_append (h : sep ∉ t) (s : List Char) : cutLast sep (s ++ sep :: t) = (s, t) := by
  induction s with
  | nil => rw [List.nil_append, cutLast, if_neg (by simpa using h), if_pos rfl]
  | cons c s ih => rw [List.cons_append, cutLast, if_pos (by simp), ih]

/-- A text with a separator has a last one. -/
theorem exists_last_of_mem (h : sep ∈ s) : ∃ before after, s = before ++ sep :: after ∧ sep ∉ after := by
  obtain ⟨after, before, heq, hafter⟩ := List.eq_append_cons_of_mem (List.mem_reverse.2 h)
  refine ⟨before.reverse, after.reverse, ?_, by simpa using hafter⟩
  rw [← List.reverse_inj, heq]
  simp

/-! ## Other separators -/

theorem replaceChar_of_notMem (new : Char) (h : c ∉ s) : replaceChar c new s = s := by
  rw [replaceChar]
  refine (List.map_congr_left fun other hother => ?_).trans (List.map_id s)
  exact if_neg fun heq : other = c => h (heq ▸ hother)

/-- A separator is replaced where pieces are joined. -/
theorem replaceChar_joinWith {new : Char} (h : ∀ piece ∈ pieces, sep ∉ piece) :
    replaceChar sep new (joinWith sep pieces) = joinWith new pieces := by
  induction pieces with
  | nil => rfl
  | cons piece rest ih =>
    have hpiece := replaceChar_of_notMem new (h piece (by simp))
    cases rest with
    | nil => exact hpiece
    | cons next rest =>
      have htail := ih fun other hother => h other (by simp [hother])
      rw [replaceChar] at hpiece htail
      rw [joinWith, joinWith, replaceChar, List.map_append, List.map_cons, if_pos rfl, hpiece, htail]

/-! ## Starts and ends -/

theorem dropStart?_append (start s : List Char) : dropStart? start (start ++ s) = some s := by
  induction start with
  | nil => rfl
  | cons c start ih =>
    rw [List.cons_append, dropStart?, if_pos rfl]
    exact ih

theorem dropStart?_eq_some : dropStart? start s = some rest ↔ s = start ++ rest := by
  refine ⟨fun h => ?_, fun h => h ▸ dropStart?_append start rest⟩
  induction start generalizing s with
  | nil => exact Option.some.inj h
  | cons c start ih =>
    cases s with
    | nil => cases h
    | cons d s =>
      rw [dropStart?] at h
      split at h
      · rename_i hcd
        rw [ih h, hcd]
        rfl
      · cases h

theorem dropSuffix?_append (s suffix : List Char) : dropSuffix? suffix (s ++ suffix) = some s := by
  simp [dropSuffix?, dropStart?_append]

theorem dropSuffix?_eq_some : dropSuffix? suffix s = some rest ↔ s = rest ++ suffix := by
  refine ⟨fun h => ?_, fun h => h ▸ dropSuffix?_append rest suffix⟩
  obtain ⟨body, hbody, rfl⟩ := Option.map_eq_some_iff.1 h
  rw [← List.reverse_inj, dropStart?_eq_some.1 hbody]
  simp

theorem beginsWith_iff {text start : String} :
    beginsWith text start = true ↔ ∃ rest, text.toList = start.toList ++ rest := by
  simp only [beginsWith, Option.isSome_iff_exists, dropStart?_eq_some]

theorem endsWith_iff {text ending : String} :
    endsWith text ending = true ↔ ∃ rest, text.toList = rest ++ ending.toList := by
  simp only [endsWith, withoutSuffix?, Option.isSome_map, Option.isSome_iff_exists, dropSuffix?_eq_some]

end UnitFoundry.Text
