import UnitFoundry.UnitName
import UnitFoundry.Proofs.Pieces

/-!
# The path of an artifact and the name of its unit

The path of an artifact is the name of its unit with slashes for dots. Where a unit is looked for by a path,
the name is read off again: slashes become dots, except for those at the start of the path, which do not
count. So a name survives just if it has no slashes of its own, and no dot at its start to become one; and a
path is the path of the name that is read off it just if it has no slash at its start, and no dots before its
ending.

* `replaceChar_replaceChar`, `notMem_replaceChar` — a character replaced, and put back;
* `dropWhile_eq_self_iff_head?` — a start that does not count;
* `ofArtifactPath?_toPath`, `ofArtifactPath?_append` — the name that is read off a path;
* `ofArtifactPath?_toPath_self` — it is the name itself, unless slashes or a first dot are in the way;
* `ofArtifactPath?_toPath_eq_self_iff` — those are all the names that are read off their own paths;
* `toPath_ofArtifactPath?_eq_self_iff` — the paths that are those of the names read off them;
* `toPath_ofArtifactPath?_inverse` — **each undoes the other on exactly these names and paths**.
-/

namespace UnitFoundry

open Text

variable {s : List Char} {old new c : Char} {name stem : String}

namespace Text

theorem length_replaceChar (old new : Char) (s : List Char) : (replaceChar old new s).length = s.length :=
  List.length_map _

/-- A character that is replaced is gone. -/
theorem notMem_replaceChar (hne : new ≠ old) (s : List Char) : old ∉ replaceChar old new s := by
  intro hmem
  obtain ⟨c, -, hc⟩ := List.mem_map.1 hmem
  split at hc
  · exact hne hc
  · contradiction

/-- A character that is replaced by one which the text does not have can be put back. -/
theorem replaceChar_replaceChar (hnew : new ∉ s) : replaceChar new old (replaceChar old new s) = s := by
  induction s with
  | nil => rfl
  | cons c rest ih =>
    simp only [List.mem_cons, not_or] at hnew
    obtain ⟨hc, hrest⟩ := hnew
    have hhead : (if (if c = old then new else c) = new then old else
        if c = old then new else c) = c := by
      by_cases hold : c = old
      · simp [hold]
      · simp [hold, Ne.symm hc]
    have htail := ih hrest
    simp only [replaceChar, List.map_cons] at htail ⊢
    rw [hhead, htail]

/-- A text begins with the new character just if it began with the one or the other. -/
theorem head?_replaceChar_eq_new : (replaceChar old new s).head? = some new ↔
    s.head? = some old ∨ s.head? = some new := by
  cases s with
  | nil => simp [replaceChar]
  | cons c rest =>
    by_cases hold : c = old
    · simp [replaceChar, hold]
    · simp [replaceChar, hold]

/-- Nothing is dropped from the start of a text just if it does not begin with what is to be dropped. -/
theorem dropWhile_eq_self_iff_head? : s.dropWhile (· = c) = s ↔ s.head? ≠ some c := by
  cases s with
  | nil => simp
  | cons d rest =>
    by_cases hd : d = c
    · have hshort : (rest.dropWhile (· = c)).length ≤ rest.length := (List.dropWhile_suffix _).length_le
      simp only [hd, decide_true, List.dropWhile_cons_of_pos, List.head?_cons, ne_eq, not_true, iff_false]
      intro hsame
      have hlength := congrArg List.length hsame
      rw [List.length_cons] at hlength
      omega
    · simp [hd]

/-- Nothing was dropped if the length is the same. -/
theorem dropWhile_eq_self_of_length {dropped : Char → Bool} (h : (s.dropWhile dropped).length = s.length) :
    s.dropWhile dropped = s :=
  (List.dropWhile_suffix dropped).eq_of_length h

end Text

namespace UnitName

theorem toList_toPath (name extension : String) :
    (toPath name extension).toList = replaceChar '.' '/' name.toList ++ extension.toList := by
  simp [toPath, replaceIn]

/-- The name that is read off the path of an artifact. -/
theorem ofArtifactPath?_append (stem : String) : ofArtifactPath? (stem ++ artifactExtension) =
    some (String.ofList (replaceChar '/' '.' (stem.toList.dropWhile (· = '/')))) := by
  rw [ofArtifactPath?, String.toList_append, dropSuffix?_append, Option.map_some]

/-- The name that is read off the path of a name. -/
theorem ofArtifactPath?_toPath (name : String) :
    ofArtifactPath? (toPath name artifactExtension) = some (String.ofList
      (replaceChar '/' '.' ((replaceChar '.' '/' name.toList).dropWhile (· = '/')))) := by
  rw [toPath, ofArtifactPath?_append, replaceIn, String.toList_ofList]

/-- The name itself is read off its path, if it has no slashes and does not begin with a dot. -/
theorem ofArtifactPath?_toPath_self (hslash : '/' ∉ name.toList) (hdot : name.toList.head? ≠ some '.') :
    ofArtifactPath? (toPath name artifactExtension) = some name := by
  -- no slash stands at the start of the path
  have hfirst : (replaceChar '.' '/' name.toList).head? ≠ some '/' := by
    rw [Ne, head?_replaceChar_eq_new]
    rintro (hold | hnew)
    · exact hdot hold
    · exact hslash (List.mem_of_mem_head? hnew)
  rw [ofArtifactPath?_toPath, dropWhile_eq_self_iff_head?.2 hfirst, replaceChar_replaceChar hslash,
    String.ofList_toList]

/-- There are no other names that are read off their own paths. -/
theorem ofArtifactPath?_toPath_eq_self_iff : ofArtifactPath? (toPath name artifactExtension) = some name ↔
    '/' ∉ name.toList ∧ name.toList.head? ≠ some '.' := by
  refine ⟨fun h => ?_, fun ⟨hslash, hdot⟩ => ofArtifactPath?_toPath_self hslash hdot⟩
  rw [ofArtifactPath?_toPath, Option.some.injEq] at h
  have hname := congrArg String.toList h
  rw [String.toList_ofList] at hname
  constructor
  · rw [← hname]
    exact notMem_replaceChar (by decide) _
  · -- a dot at the start would be a slash that is dropped, and the name would be longer than its reading
    have hlength := congrArg List.length hname
    rw [length_replaceChar, ← length_replaceChar '.' '/' name.toList] at hlength
    have hfirst := dropWhile_eq_self_iff_head?.1 (dropWhile_eq_self_of_length hlength)
    exact fun hdot => hfirst (head?_replaceChar_eq_new.2 (.inl hdot))

/-- The path of an artifact begins with a slash just if there is one before its ending. -/
theorem head?_append_artifactExtension :
    (stem ++ artifactExtension).toList.head? = some '/' ↔ stem.toList.head? = some '/' := by
  rw [String.toList_append]
  cases stem.toList with
  | nil => simp [artifactExtension]
  | cons c rest => simp

/-- The paths that are found again from the names which are read off them. -/
theorem toPath_ofArtifactPath?_eq_self_iff :
    (ofArtifactPath? (stem ++ artifactExtension)).map (toPath · artifactExtension) =
        some (stem ++ artifactExtension) ↔
      (stem ++ artifactExtension).toList.head? ≠ some '/' ∧ '.' ∉ stem.toList := by
  rw [ofArtifactPath?_append, Option.map_some, Option.some.injEq, ← String.toList_inj, toList_toPath,
    String.toList_ofList, String.toList_append, List.append_left_inj, ← String.toList_append, Ne,
    head?_append_artifactExtension]
  constructor
  · intro h
    refine ⟨?_, ?_⟩
    · have hlength := congrArg List.length h
      rw [length_replaceChar, length_replaceChar] at hlength
      exact dropWhile_eq_self_iff_head?.1 (dropWhile_eq_self_of_length hlength)
    · rw [← h]
      exact notMem_replaceChar (by decide) _
  · rintro ⟨hslash, hdot⟩
    rw [dropWhile_eq_self_iff_head?.2 hslash, replaceChar_replaceChar hdot]

/-- **Names and paths of artifacts undo each other on an exact domain**: a name is read off its own path just
if it has no slash and no dot at its start, and the path of an artifact is that of the name which is read off
it just if it has no slash at its start and no dot before its ending. -/
theorem toPath_ofArtifactPath?_inverse (name stem : String) :
    (ofArtifactPath? (toPath name artifactExtension) = some name ↔
      '/' ∉ name.toList ∧ name.toList.head? ≠ some '.') ∧
    ((ofArtifactPath? (stem ++ artifactExtension)).map (toPath · artifactExtension) =
        some (stem ++ artifactExtension) ↔
      (stem ++ artifactExtension).toList.head? ≠ some '/' ∧ '.' ∉ stem.toList) :=
  ⟨ofArtifactPath?_toPath_eq_self_iff, toPath_ofArtifactPath?_eq_self_iff⟩

end UnitName

end UnitFoundry
