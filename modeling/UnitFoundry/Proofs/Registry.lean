import UnitFoundry.Proofs.Entries
import UnitFoundry.Registry

/-!
# What the registry holds after publications

A publication changes what one canonical name leads to, and nothing else: the other names lead to the
contexts they led to before. The entries of the registry are set like any others.

* `entries_replace` — a publication sets one entry;
* `lookup?_replace` — where names lead to after a publication.
-/

namespace UnitFoundry.Registry

open Script

variable {r : Registry} {name other : String} {id : ContextId}

theorem put_eq_setEntry (name : String) (id : ContextId) (entries : List (String × ContextId)) :
    put name id entries = setEntry name id entries := by
  induction entries with
  | nil => rfl
  | cons entry rest ih => rw [put, setEntry, ih]

/-- A publication sets one entry. -/
theorem entries_replace (r : Registry) (name : String) (id : ContextId) :
    (r.replace name id).entries = setEntry name id r.entries :=
  put_eq_setEntry name id r.entries

/-- What a name leads to is an active context. -/
theorem mem_contexts_of_lookup? (h : r.lookup? name = some id) : id ∈ r.contexts := by
  obtain ⟨entry, hentry, rfl⟩ := Option.map_eq_some_iff.1 h
  exact List.mem_map_of_mem (List.mem_of_find?_eq_some hentry)

/-- The active contexts after a publication. -/
theorem mem_contexts_replace {context : ContextId} (h : context ∈ (r.replace name id).contexts) :
    context = id ∨ context ∈ r.contexts := by
  obtain ⟨entry, hentry, rfl⟩ := List.mem_map.1 h
  rw [entries_replace] at hentry
  rcases mem_setEntry hentry with rfl | hbefore
  · exact .inl rfl
  · exact .inr (List.mem_map_of_mem hbefore)

theorem lookup?_replace (name other : String) :
    (r.replace name id).lookup? other = if other = name then some id else r.lookup? other := by
  show lookupEntry other (put name id r.entries) = _
  rw [put_eq_setEntry, lookupEntry_setEntry]
  rfl

/-- A slot that is filled stays filled. -/
theorem isSome_lookup?_replace (h : (r.lookup? other).isSome) :
    ((r.replace name id).lookup? other).isSome := by
  rw [lookup?_replace]
  split
  · rfl
  · exact h

end UnitFoundry.Registry
