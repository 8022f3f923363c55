import UnitFoundry.Import
import UnitFoundry.Proofs.Pieces
import UnitFoundry.Proofs.Script.Attributes

/-!
# Namespaces made for dotted names

An import of a unit whose name has several parts binds the first part only, to a namespace made for this
import, which has the next part in it and nothing else, and so on down to the module. A dotted expression is
found in such namespaces only if it consists of the same parts, or goes on with attributes of the module.

* `pieces_eq_cons`, `pieces_inj` — the parts of a dotted name;
* `Nested`, `nestParts_eq_ok`, `exists_nestParts` — the namespaces around a module;
* `Nested.follow_iff` — **what is found in them**;
* `dotted`, `evaluate_dotted` — dotted expressions.
-/

namespace UnitFoundry

open Text

/-! ## The parts of a name -/

namespace UnitName

variable {name other : String} {rest : List String}

/-- The parts of a name begin with its first component. -/
theorem pieces_eq_cons (name : String) : pieces '.' name = top name :: (pieces '.' name).tail := by
  obtain ⟨rest, hrest⟩ := exists_splitOn '.' name.toList
  simp [pieces, hrest, top]

/-- A name is told by its parts. -/
theorem pieces_inj : pieces '.' name = pieces '.' other ↔ name = other := by
  refine ⟨fun h => ?_, congrArg _⟩
  have hchars : splitOn '.' name.toList = splitOn '.' other.toList := by
    exact List.map_injective_iff.2 (fun _ _ => String.ofList_inj.1) h
  rw [← String.toList_inj, ← joinWith_splitOn '.' name.toList, hchars, joinWith_splitOn]

/-- Names with the same first component differ in what comes after it. -/
theorem pieces_eq_append_iff (h : top name = top other) :
    pieces '.' name = pieces '.' other ++ rest ↔ (pieces '.' name).tail = (pieces '.' other).tail ++ rest := by
  rw [pieces_eq_cons name, pieces_eq_cons other, h, List.cons_append, List.cons.injEq]
  simp

end UnitName

namespace Script

variable {engine : Engine} {r : Running} {s t : Session} {value inner : Value} {m n : ModuleId} {name : String}
  {parts wanted : List String}

/-! ## Namespaces inside one another -/

/-- A part of a name under which something can be put into a namespace, and found in it. -/
def IsKey (part : String) : Prop := part ≠ "__class__" ∧ part ≠ "__dict__"

instance (part : String) : Decidable (IsKey part) := inferInstanceAs (Decidable (_ ∧ _))

/-- Namespaces with one entry each, inside one another. They lead to a value along the parts of a name. -/
inductive Nested (s : Session) : Value → List String → Value → Prop where
  | here (value : Value) : Nested s value [] value
  | bundle {id : ObjectId} {part : String} {rest : List String} {inner value : Value}
      (hid : s.objects[id]? = some (Object.bundle [(part, inner)])) (hkey : IsKey part)
      (h : Nested s inner rest value) : Nested s (.object id) (part :: rest) value

namespace Nested

theorem isKey (h : Nested s value parts inner) : ∀ part ∈ parts, IsKey part := by
  induction h with
  | here value => simp
  | bundle hid hkey h ih => exact List.forall_mem_cons.2 ⟨hkey, ih⟩

theorem mono (h : Nested s value parts inner)
    (hst : ∀ (id : ObjectId) entries, s.objects[id]? = some (Object.bundle entries) →
      t.objects[id]? = some (Object.bundle entries)) :
    Nested t value parts inner := by
  induction h with
  | here value => exact .here value
  | bundle hid hkey h ih => exact .bundle (hst _ _ hid) hkey ih

end Nested

theorem settable_eq_ok {kind : String} {isType : Bool} (h : settable name kind isType = .ok ()) : IsKey name := by
  unfold settable at h
  split at h
  · cases h
  · split at h
    · cases h
    · exact ⟨by assumption, by assumption⟩

/-- **The namespaces made around a value** lead to it. Nothing else is changed. -/
theorem nestParts_eq_ok (h : Import.nestParts inner parts s = .ok value t) :
    (∃ objects, t = { s with objects }) ∧ s.KeepsObjects t ∧ Nested t value parts inner := by
  induction parts generalizing value t with
  | nil =>
    cases h
    exact ⟨⟨s.objects, rfl⟩, .refl s, .here inner⟩
  | cons part rest ih =>
    obtain ⟨_, s₀, hsettable, hrest⟩ := Action.bind_eq_ok.1 h
    obtain ⟨hkey, heq⟩ := Action.ofExcept_eq_ok.1 hsettable
    subst s₀
    obtain ⟨next, s₁, hnext, hnew⟩ := Action.bind_eq_ok.1 hrest
    obtain ⟨⟨objects, rfl⟩, hkeeps, hnested⟩ := ih hnext
    cases hnew
    have hpush := Session.KeepsObjects.push { s with objects } (.bundle [(part, next)])
    refine ⟨⟨_, rfl⟩, hkeeps.trans hpush, .bundle Array.getElem?_push_size (settable_eq_ok hkey) ?_⟩
    exact hnested.mono fun id entries hid => hpush id _ hid

theorem settable_of_isKey (h : IsKey name) (kind : String) (isType : Bool) : settable name kind isType = .ok () := by
  rw [settable, if_neg h.1, if_neg h.2]

/-- They can be made if all parts are fit for them. -/
theorem exists_nestParts (hkey : ∀ part ∈ parts, IsKey part) (inner : Value) (s : Session) :
    ∃ value t, Import.nestParts inner parts s = .ok value t := by
  induction parts with
  | nil => exact ⟨inner, s, rfl⟩
  | cons part rest ih =>
    obtain ⟨next, t, hnext⟩ := ih fun other hother => hkey other (List.mem_cons_of_mem part hother)
    have hsettable := settable_of_isKey (hkey part List.mem_cons_self)
      (if rest.isEmpty then "module" else bundleKind) false
    refine ⟨.object t.objects.size, { t with objects := t.objects.push (.bundle [(part, next)]) }, ?_⟩
    rw [Import.nestParts, hsettable]
    exact Action.bind_ok hnext

/-- What is taken out of namespaces inside one another, part by part, if each gives its entry. -/
theorem Nested.foldlM_eq (h : Nested s value parts inner) (take : Value → String → Action Value)
    (htake : ∀ (id : ObjectId) entries part found, s.objects[id]? = some (Object.bundle entries) → IsKey part →
      lookupEntry part entries = some found → take (.object id) part s = .ok found s) :
    parts.foldlM take value s = .ok inner s := by
  induction h with
  | here value => rfl
  | @bundle id part rest inner value hid hkey h ih =>
    have hfound : take (.object id) part s = .ok inner s :=
      htake id _ part inner hid hkey (by simp [lookupEntry])
    rw [List.foldlM_cons, Action.bind_ok hfound]
    exact ih

/-! ## Attributes one inside the other -/

/-- The attributes with the parts of a name, one inside the other. -/
def follow (engine : Engine) (value : Value) (parts : List String) : Action Value :=
  parts.foldlM (attributeOf engine) value

theorem follow_cons (value : Value) (part : String) (rest : List String) :
    follow engine value (part :: rest) = (do follow engine (← attributeOf engine value part) rest) := rfl

/-- **What is found in namespaces inside one another**: a module is found along their own parts, and beyond
them in the module they lead to. -/
theorem Nested.follow_iff (h : Nested s value parts (.module m)) (hkey : ∀ part ∈ wanted, IsKey part) :
    (∃ t, follow engine value wanted s = .ok (.module n) t) ↔
      ∃ rest, wanted = parts ++ rest ∧ ∃ t, follow engine (.module m) rest s = .ok (.module n) t := by
  generalize hm : Value.module m = target at h
  induction h generalizing wanted with
  | here value => simp
  | bundle hid hpart h ih =>
    rename_i id part rest inner value
    cases wanted with
    | nil =>
      constructor
      · rintro ⟨t, ht⟩
        cases ht
      · rintro ⟨other, hother, -⟩
        cases hother
    | cons first others =>
      have hfirst : IsKey first := hkey first List.mem_cons_self
      have hothers : ∀ part ∈ others, IsKey part := fun part hmem => hkey part (List.mem_cons_of_mem first hmem)
      by_cases heq : first = part
      · subst heq
        have hfound : attributeOf engine (.object id) first s = .ok inner s :=
          attributeOf_bundle hid hfirst.1 hfirst.2 (by simp [lookupEntry])
        rw [follow_cons, Action.bind_ok hfound, ih hothers hm]
        simp
      · -- no other part is there
        have hmissing : lookupEntry first [(part, inner)] = none := by
          simp [lookupEntry, Ne.symm heq]
        obtain ⟨f, hf⟩ := attributeOf_bundle_none engine hid hfirst.1 hfirst.2 hmissing
        rw [follow_cons, Action.bind_error hf]
        constructor
        · rintro ⟨t, ht⟩
          cases ht
        · rintro ⟨other, hother, -⟩
          exact (heq (List.cons.inj hother).1).elim

/-! ## Dotted expressions -/

/-- The expression that consists of the parts of a name. -/
def dotted (name : String) : Expr :=
  (pieces '.' name).tail.foldl .attribute (.name (UnitName.top name))

theorem evaluate_attributes (engine : Engine) (e : Expr) (parts : List String) :
    evaluate engine (parts.foldl .attribute e) = (do
      let value ← evaluate engine e
      parts.foldlM (fun value part => do
        let part ← Run.known part
        Run.lift (attributeOf engine value part)) value) := by
  induction parts generalizing e with
  | nil => simp
  | cons part rest ih => simp [ih, evaluate, List.foldlM_cons]

/-- Names that are not private are what they are written as. -/
theorem foldlM_known (take : Value → String → Action Value)
    (hplain : ∀ part ∈ parts, privateName r.frame.owner part = part) (value : Value) :
    (parts.foldlM (fun value part => do Run.lift (take value (← Run.known part))) value : Run Value) r =
      Run.lift (parts.foldlM take value) r := by
  induction parts generalizing r value with
  | nil => rfl
  | cons part rest ih =>
    have hknown : Run.known part r = .ok part r := by rw [Run.known_apply, hplain part List.mem_cons_self]
    have hrest : ∀ other ∈ rest, privateName r.frame.owner other = other :=
      fun other hother => hplain other (List.mem_cons_of_mem part hother)
    rw [List.foldlM_cons, bind_assoc, Run.bind_ok hknown, List.foldlM_cons]
    cases hfound : take value part r.session with
    | error f s =>
      rw [Run.bind_error (Run.lift_error hfound), Run.lift_error (Action.bind_error hfound)]
    | ok found s =>
      rw [Run.bind_ok (Run.lift_ok hfound), ih (by exact hrest)]
      unfold Run.lift
      rw [Action.bind_ok hfound]

/-- **A dotted expression** is evaluated from the value of its first name on. -/
theorem evaluate_dotted (hplain : ∀ part ∈ (pieces '.' name).tail, privateName r.frame.owner part = part)
    (hlookup : Run.lookup (UnitName.top name) r = .ok value r) :
    evaluate engine (dotted name) r = Run.lift (follow engine value (pieces '.' name).tail) r := by
  have hname : evaluate engine (.name (UnitName.top name)) r = .ok value r := by
    rw [evaluate, hlookup]
  rw [dotted, evaluate_attributes, Run.bind_ok hname]
  exact foldlM_known (attributeOf engine) hplain value

end Script

end UnitFoundry
