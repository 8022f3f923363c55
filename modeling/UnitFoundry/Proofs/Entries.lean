import UnitFoundry.Datum
import UnitFoundry.Proofs.Lists

/-!
# What entries hold after they were set

Entries with keys are set one after the other: a value takes the place of the one before it under its
key, and a new key goes to the end. What they hold in the end is determined by what was set, in order:
the keys in the order in which they were first set, and for each key the value set last.

* `lookupEntry_setEntry`, `keys_setEntry` — the values and the keys after one more entry was set;
* `perm_setEntry` — no value is lost;
* `lookupEntry_mergeEntries` — the values of entries that are overridden;
* `Records` — entries are what is left of all that was set;
* `Records.set`, `Records.foldl` — **they stay so** when one more entry is set, or many.
-/

namespace UnitFoundry

variable {α : Type}

/-! ## One entry -/

theorem lookupEntry_cons (first key : String) (old : α) (rest : List (String × α)) :
    lookupEntry key ((first, old) :: rest) =
      if first = key then some old else lookupEntry key rest := by
  by_cases h : first = key
  · simp [lookupEntry, h]
  · simp [lookupEntry, h]

theorem lookupEntry_setEntry (key other : String) (value : α) (entries : List (String × α)) :
    lookupEntry other (setEntry key value entries) =
      if other = key then some value else lookupEntry other entries := by
  induction entries with
  | nil =>
    rw [setEntry, lookupEntry_cons]
    simp only [eq_comm]
  | cons entry rest ih =>
    obtain ⟨first, old⟩ := entry
    by_cases hfirst : first = key
    · subst hfirst
      rw [setEntry, if_pos rfl, lookupEntry_cons, lookupEntry_cons]
      by_cases hother : first = other
      · rw [if_pos hother, if_pos hother.symm]
      · rw [if_neg hother, if_neg (Ne.symm hother), if_neg hother]
    · rw [setEntry, if_neg hfirst, lookupEntry_cons, lookupEntry_cons, ih]
      by_cases hother : first = other
      · rw [if_pos hother, if_pos hother, if_neg (hother ▸ hfirst)]
      · rw [if_neg hother, if_neg hother]

/-- What was set is not set anew. -/
theorem setEntry_setEntry (key : String) (value : α) (entries : List (String × α)) :
    setEntry key value (setEntry key value entries) = setEntry key value entries := by
  induction entries with
  | nil => exact if_pos rfl
  | cons entry rest ih =>
    obtain ⟨first, old⟩ := entry
    by_cases hfirst : first = key
    · rw [setEntry, if_pos hfirst, setEntry, if_pos rfl]
    · rw [setEntry, if_neg hfirst, setEntry, if_neg hfirst, ih]

/-- A new key goes to the end; the others keep their places. -/
theorem keys_setEntry (key : String) (value : α) (entries : List (String × α)) :
    (setEntry key value entries).map (·.1) =
      if key ∈ entries.map (·.1) then entries.map (·.1) else entries.map (·.1) ++ [key] := by
  induction entries with
  | nil => rfl
  | cons entry rest ih =>
    obtain ⟨first, old⟩ := entry
    by_cases hfirst : first = key
    · simp [setEntry, hfirst]
    · rw [setEntry, if_neg hfirst, List.map_cons, ih]
      by_cases hkey : key ∈ rest.map (·.1)
      · have hcons : key ∈ ((first, old) :: rest).map (·.1) := List.mem_cons_of_mem _ hkey
        rw [if_pos hkey, if_pos hcons]
        rfl
      · have hcons : key ∉ ((first, old) :: rest).map (·.1) := by
          rw [List.map_cons, List.mem_cons, not_or]
          exact ⟨Ne.symm hfirst, hkey⟩
        rw [if_neg hkey, if_neg hcons]
        rfl

theorem mem_setEntry {key : String} {value : α} {entries : List (String × α)} {e : String × α}
    (h : e ∈ setEntry key value entries) : e = (key, value) ∨ e ∈ entries := by
  induction entries with
  | nil => exact .inl (List.mem_singleton.1 h)
  | cons first rest ih =>
    rw [setEntry] at h
    split at h
    · exact (List.mem_cons.1 h).imp_right (List.mem_cons_of_mem first)
    · rcases List.mem_cons.1 h with rfl | hrest
      · exact .inr List.mem_cons_self
      · exact (ih hrest).imp_right (List.mem_cons_of_mem first)

/-- **No value is lost**: the one that was under the key is what was there before, and the others are still there. -/
theorem perm_setEntry (key : String) (value : α) (entries : List (String × α)) :
    ((lookupEntry key entries).toList ++ (setEntry key value entries).map (·.2)).Perm
      (value :: entries.map (·.2)) := by
  induction entries with
  | nil => exact .refl _
  | cons entry rest ih =>
    obtain ⟨first, old⟩ := entry
    rw [lookupEntry_cons, setEntry]
    split
    · exact .swap value old (rest.map (·.2))
    · exact List.perm_middle.trans ((ih.cons old).trans (.swap value old (rest.map (·.2))))

/-- A value is found if there is no other under its key. -/
theorem lookupEntry_of_unique {entries : List (String × α)} {key : String} {value : α}
    (hmem : (key, value) ∈ entries) (h : ∀ e ∈ entries, e.1 = key → e.2 = value) :
    lookupEntry key entries = some value := by
  obtain ⟨e, he⟩ := Option.isSome_iff_exists.1
    (List.find?_isSome.2 ⟨_, hmem, decide_eq_true rfl⟩ : (entries.find? (·.1 = key)).isSome)
  rw [lookupEntry, he, Option.map_some, h e (List.mem_of_find?_eq_some he) (by simpa using List.find?_some he)]

/-- What is found is an entry. -/
theorem mem_of_lookupEntry {entries : List (String × α)} {key : String} {value : α}
    (h : lookupEntry key entries = some value) : (key, value) ∈ entries := by
  obtain ⟨⟨first, found⟩, hfind, rfl⟩ := Option.map_eq_some_iff.1 h
  obtain rfl : first = key := by simpa using List.find?_some hfind
  exact List.mem_of_find?_eq_some hfind

theorem lookupEntry_eq_none {entries : List (String × α)} {key : String} (h : ∀ e ∈ entries, e.1 ≠ key) :
    lookupEntry key entries = none := by
  rw [lookupEntry, List.find?_eq_none.2 fun e he => by simpa using h e he]
  rfl

/-! ## Different keys -/

/-- An entry is found under its key. -/
theorem lookupEntry_of_mem {entries : List (String × α)} (h : (entries.map (·.1)).Nodup) {key : String}
    {value : α} (hmem : (key, value) ∈ entries) : lookupEntry key entries = some value := by
  induction entries with
  | nil => cases hmem
  | cons entry rest ih =>
    obtain ⟨first, old⟩ := entry
    obtain ⟨hfirst, hrest⟩ := List.nodup_cons.1 h
    rw [lookupEntry_cons]
    rcases List.mem_cons.1 hmem with heq | hmem
    · obtain ⟨rfl, rfl⟩ := Prod.mk.inj heq
      rw [if_pos rfl]
    · rw [if_neg, ih hrest hmem]
      rintro rfl
      exact hfirst (List.mem_map.2 ⟨_, hmem, rfl⟩)

/-- Keys stay different. -/
theorem nodup_setEntry {entries : List (String × α)} (h : (entries.map (·.1)).Nodup) (key : String) (value : α) :
    ((setEntry key value entries).map (·.1)).Nodup := by
  rw [keys_setEntry]
  split
  · exact h
  · rename_i hnew
    exact List.nodup_append.2 ⟨h, List.pairwise_singleton _ _, fun first hfirst other hother heq =>
      hnew (List.mem_singleton.1 hother ▸ heq ▸ hfirst)⟩

/-- The values of entries, read off their keys. -/
theorem values_eq_filterMap {entries : List (String × α)} (h : (entries.map (·.1)).Nodup) :
    entries.map (·.2) = (entries.map (·.1)).filterMap fun key => lookupEntry key entries := by
  induction entries with
  | nil => rfl
  | cons entry rest ih =>
    obtain ⟨first, old⟩ := entry
    obtain ⟨hfirst, hrest⟩ := List.nodup_cons.1 h
    have htail : (rest.map (·.1)).filterMap (fun key => lookupEntry key ((first, old) :: rest)) =
        (rest.map (·.1)).filterMap fun key => lookupEntry key rest := by
      refine List.filterMap_congr fun key hkey => ?_
      rw [lookupEntry_cons, if_neg]
      rintro rfl
      exact hfirst hkey
    have hhead : lookupEntry first ((first, old) :: rest) = some old := by
      rw [lookupEntry_cons, if_pos rfl]
    show old :: rest.map (·.2) = List.filterMap _ (first :: rest.map (·.1))
    rw [List.filterMap_cons, hhead, htail, ih hrest]

/-! ## All entries -/

/-- The value that was set last under a key. -/
def lastSet? (entered : List (String × α)) (key : String) : Option α :=
  ((entered.filter (·.1 = key)).getLast?).map (·.2)

theorem lastSet?_concat (entered : List (String × α)) (key other : String) (value : α) :
    lastSet? (entered ++ [(key, value)]) other =
      if other = key then some value else lastSet? entered other := by
  by_cases h : other = key
  · simp [lastSet?, List.filter_append, h]
  · simp [lastSet?, List.filter_append, h, Ne.symm h]

theorem lastSet?_append (entered more : List (String × α)) (key : String) :
    lastSet? (entered ++ more) key = (lastSet? more key).or (lastSet? entered key) := by
  simp only [lastSet?, List.filter_append, List.getLast?_append]
  cases (more.filter (·.1 = key)).getLast? with
  | none => rfl
  | some entry => rfl

theorem mem_of_lastSet? {entered : List (String × α)} {key : String} {value : α}
    (h : lastSet? entered key = some value) : (key, value) ∈ entered := by
  obtain ⟨⟨first, _⟩, hlast, rfl⟩ := Option.map_eq_some_iff.1 h
  obtain ⟨hmem, hkey⟩ := List.mem_filter.1 (List.mem_of_getLast? hlast)
  obtain rfl : first = key := of_decide_eq_true hkey
  exact hmem

theorem isSome_lastSet? {entered : List (String × α)} {key : String} {value : α}
    (h : (key, value) ∈ entered) : (lastSet? entered key).isSome := by
  have hmem : (key, value) ∈ entered.filter (·.1 = key) :=
    List.mem_filter.2 ⟨h, decide_eq_true rfl⟩
  rw [lastSet?, Option.isSome_map, List.getLast?_isSome]
  exact List.ne_nil_of_mem hmem

/-- Entries that are overridden hold what was set last, else what they held before. -/
theorem lookupEntry_mergeEntries (key : String) (entries overrides : List (String × α)) :
    lookupEntry key (mergeEntries entries overrides) = (lastSet? overrides key).or (lookupEntry key entries) := by
  induction overrides using List.reverseRecOn with
  | nil => rfl
  | append_singleton overrides entry ih =>
    obtain ⟨other, value⟩ := entry
    rw [mergeEntries, List.foldl_append, List.foldl_cons, List.foldl_nil, lookupEntry_setEntry,
      lastSet?_concat]
    by_cases h : key = other
    · simp [h]
    · rw [if_neg h, if_neg h]
      exact ih

/-- What is set under the keys of a list, each of which stands there once. -/
theorem lastSet?_filterMap {β : Type} {keys : List (β × String)} (hkeys : (keys.map (·.2)).Nodup)
    (value? : β × String → Option α) {b : β} {key : String} (hmem : (b, key) ∈ keys) :
    lastSet? (keys.filterMap fun k => (value? k).map (k.2, ·)) key = value? (b, key) := by
  induction keys using List.reverseRecOn with
  | nil => cases hmem
  | append_singleton keys last ih =>
    obtain ⟨c, other⟩ := last
    rw [List.map_append, List.nodup_append] at hkeys
    obtain ⟨hrest, -, hdiffer⟩ := hkeys
    rw [List.filterMap_append, lastSet?_append]
    rcases List.mem_append.1 hmem with hmem | hmem
    · have hne : key ≠ other := hdiffer key (List.mem_map.2 ⟨_, hmem, rfl⟩) other (by simp)
      have hnone : lastSet? ([(c, other)].filterMap fun k => (value? k).map (k.2, ·)) key = none := by
        cases hvalue : value? (c, other) with
        | none => simp [lastSet?, hvalue]
        | some v => simp [lastSet?, hvalue, Ne.symm hne]
      rw [hnone, Option.none_or]
      exact ih hrest hmem
    · obtain ⟨rfl, rfl⟩ : b = c ∧ key = other := by simpa using hmem
      have hnone : lastSet? (keys.filterMap fun k => (value? k).map (k.2, ·)) key = none := by
        rw [Option.eq_none_iff_forall_ne_some]
        intro v hv
        obtain ⟨k, hk, hvalue⟩ := List.mem_filterMap.1 (mem_of_lastSet? hv)
        obtain ⟨w, -, heq⟩ := Option.map_eq_some_iff.1 hvalue
        exact hdiffer k.2 (List.mem_map.2 ⟨k, hk, rfl⟩) key (by simp) (congrArg Prod.fst heq)
      rw [hnone, Option.or_none]
      cases hvalue : value? (b, key) with
      | none => simp [hvalue, lastSet?]
      | some v => simp [hvalue, lastSet?]

/-- Entries are what is left of all that was set, in order. -/
structure Records (entries entered : List (String × α)) : Prop where
  keys : entries.map (·.1) = (entered.map (·.1)).eraseDups
  last : ∀ key, lookupEntry key entries = lastSet? entered key

namespace Records

variable {entries entered : List (String × α)}

theorem nil : Records ([] : List (String × α)) [] := ⟨rfl, fun _ => rfl⟩

/-- **One more entry is set.** -/
theorem set (h : Records entries entered) (key : String) (value : α) :
    Records (setEntry key value entries) (entered ++ [(key, value)]) where
  keys := by
    rw [keys_setEntry, h.keys, List.map_append, List.map_singleton, eraseDups_concat]
    simp only [List.mem_eraseDups]
  last other := by rw [lookupEntry_setEntry, lastSet?_concat, h.last]

/-- **More entries are set.** -/
theorem foldl (h : Records entries entered) (more : List (String × α)) :
    Records (more.foldl (fun entries entry => setEntry entry.1 entry.2 entries) entries) (entered ++ more) := by
  induction more generalizing entries entered with
  | nil => rwa [List.append_nil]
  | cons entry more ih =>
    rw [List.append_cons]
    exact ih (h.set entry.1 entry.2)

theorem nodup (h : Records entries entered) : (entries.map (·.1)).Nodup := h.keys ▸ nodup_eraseDups _

theorem mem_entered (h : Records entries entered) {key : String} {value : α}
    (hmem : (key, value) ∈ entries) : (key, value) ∈ entered :=
  mem_of_lastSet? ((h.last key).symm.trans (lookupEntry_of_mem h.nodup hmem))

/-- The values, in order. -/
theorem values (h : Records entries entered) :
    entries.map (·.2) = (entered.map (·.1)).eraseDups.filterMap (lastSet? entered) := by
  rw [values_eq_filterMap h.nodup, h.keys]
  exact List.filterMap_congr fun key _ => h.last key

end Records

end UnitFoundry
