import UnitFoundry.Proofs.Script.Discipline

/-!
# What scripts do with values keeps to a discipline

Kinds, members and attributes; texts; truth and equality; operators and items; exceptions; the types
and functions that every script has. Each operation keeps to every discipline that governs the
engine, for what it does is made of the steps of a script, of the calls of the engine, and of
operations of which that is already known.

Where a type of a script says what an operation does, that is a call of the engine, too:
`keeps_special`, `keeps_fallback`.
-/

namespace UnitFoundry.Script.Discipline

open Text

variable {d : Discipline} {α : Type} {engine : Engine}

/-! ## Kinds -/

@[grind ←]
theorem keeps_definition (id : ObjectId) : d.Keeps (definition id) := by
  unfold definition
  grind

@[grind ←]
theorem keeps_objectKind (o : Object) : d.Keeps (objectKind o) := by
  unfold objectKind
  grind

@[grind ←]
theorem keeps_kindOf (value : Value) : d.Keeps (kindOf value) := by
  unfold kindOf
  grind

@[grind ←]
theorem keeps_typeNameOf (value : Value) : d.Keeps (typeNameOf value) := by
  unfold typeNameOf
  grind

@[grind ←]
theorem keeps_typeOf (value : Value) : d.Keeps (typeOf value) := by
  unfold typeOf
  grind

@[grind ←]
theorem keeps_isType (value : Value) : d.Keeps (isType value) := by
  unfold isType
  grind

@[grind ←]
theorem raises_settable (name kind : String) (isType : Bool) :
    Contract.Raises (settable name kind isType) := by
  unfold settable
  grind

@[grind ←]
theorem keeps_checkSettable (name : String) (value : Value) : d.Keeps (checkSettable name value) := by
  unfold checkSettable
  grind

@[grind ←]
theorem keeps_takesSelf (value : Value) : d.Keeps (takesSelf value) := by
  unfold takesSelf
  grind

/-! ## Members of types -/

@[grind ←]
theorem keeps_member? (value : Value) (name : String) : d.Keeps (member? value name) := by
  unfold member?
  grind

/-- What is done with the operation that a type says for a name. All it can do is call its engine. -/
@[grind ←]
theorem keeps_special (h : d.Governs engine) {value : Value} {name : String}
    {f : Option (List Value → Action Value) → Action α} (hnone : d.Keeps (f none))
    (hsome : ∀ op : List Value → Action Value, (∀ arguments, d.Keeps (op arguments)) →
      d.Keeps (f (some op))) : d.Keeps (special? engine value name >>= f) := by
  simp only [special?, bind_assoc]
  refine (keeps_member? value name).bind fun found _ => ?_
  cases found with
  | none => simpa using hnone
  | some member =>
    simp only [bind_assoc]
    refine (keeps_takesSelf member).bind fun bound _ => ?_
    cases bound with
    | true => simpa using hsome _ fun arguments => h.call member (value :: arguments)
    | false => simpa using hsome _ fun arguments => h.call member arguments

@[grind ←]
theorem keeps_isCallable (value : Value) : d.Keeps (isCallable value) := by
  unfold isCallable
  grind

/-! ## Attributes -/

@[grind ←]
theorem keeps_bindMember (self found : Value) : d.Keeps (bindMember self found) := by
  unfold bindMember
  grind

@[grind ←]
theorem keeps_exceptionAttribute? (kind : String) (arguments details : List Value)
    (name : String) : d.Keeps (exceptionAttribute? kind arguments details name) := by
  unfold exceptionAttribute?
  grind

@[grind ←]
theorem keeps_objectAttribute? (value : Value) (o : Object) (name : String) :
    d.Keeps (objectAttribute? value o name) := by
  unfold objectAttribute?
  grind

@[grind ←]
theorem keeps_contextAttribute? (id : ContextId) (name : String) :
    d.Keeps (contextAttribute? id name) := by
  unfold contextAttribute?
  grind

@[grind ←]
theorem keeps_artifactAttribute? (id : ContextId) (name : String) :
    d.Keeps (artifactAttribute? id name) := by
  unfold artifactAttribute?
  grind

@[grind ←]
theorem keeps_ownAttribute? (value : Value) (name : String) :
    d.Keeps (ownAttribute? value name) := by
  unfold ownAttribute?
  grind

@[grind ←]
theorem keeps_ownerText (value : Value) : d.Keeps (ownerText value) := by
  unfold ownerText
  grind

@[grind ←]
theorem keeps_missingAttribute (value : Value) (name : String) :
    d.Keeps (missingAttribute value name) := by
  unfold missingAttribute
  grind

@[grind →]
theorem fails_of_gives_missingAttribute {value : Value} {name : String} {f : Failure}
    (h : d.Gives (missingAttribute value name) f) : d.fails f := by
  obtain ⟨s, t, -, h⟩ := h
  obtain ⟨owner, u, -, h⟩ := Action.bind_eq_ok.1 h
  cases h
  exact d.raised _

/-- The same for the operation that gives the attributes which a value does not have by itself. -/
@[grind ←]
theorem keeps_fallback (h : d.Governs engine) {value : Value}
    {f : Option (List Value → Action Value) → Action α} (hnone : d.Keeps (f none))
    (hsome : ∀ op : List Value → Action Value, (∀ arguments, d.Keeps (op arguments)) →
      d.Keeps (f (some op))) : d.Keeps (fallback? engine value >>= f) := by
  unfold fallback?
  split
  · rename_i id
    simp only [bind_assoc]
    refine (keeps_module id).bind fun m _ => ?_
    cases m.get? "__getattr__" with
    | none => simpa using hnone
    | some hook => simpa using hsome _ fun arguments => h.call hook arguments
  · exact keeps_special h hnone hsome

@[grind ←]
theorem keeps_attributeAtFirst (h : d.Governs engine) (value : Value) (name : String) :
    d.Keeps (attributeAtFirst engine value name) := by
  unfold attributeAtFirst
  grind

@[grind ←]
theorem keeps_attributeOf (h : d.Governs engine) (value : Value) (name : String) :
    d.Keeps (attributeOf engine value name) := by
  unfold attributeOf
  grind

@[grind ←]
theorem keeps_attributeOf? (h : d.Governs engine) (value : Value) (name : String) :
    d.Keeps (attributeOf? engine value name) := by
  unfold attributeOf?
  grind

/-! ## Texts -/

@[grind ←]
theorem fails_tooDeep (during : String) : d.fails (tooDeep during) := d.raised _

@[grind ←]
theorem keeps_wholeText (n : Int) : d.Keeps (wholeText n) := by
  unfold wholeText
  grind

@[grind ←]
theorem keeps_textOnly (operation : String) (value : Value) :
    d.Keeps (textOnly operation value) := by
  unfold textOnly
  grind

@[grind ←]
theorem keeps_quotedObject (h : d.Governs engine) {form outer : Value → Action String}
    (hf : ∀ value, d.Keeps (form value)) (ho : ∀ value, d.Keeps (outer value)) (isInside : Bool)
    (value : Value) (o : Object) : d.Keeps (quotedObject engine form outer isInside value o) := by
  unfold quotedObject
  grind

@[grind ←]
theorem keeps_quotedWithin (h : d.Governs engine) (depth : Nat) (inside : List ObjectId)
    (value : Value) : d.Keeps (quotedWithin engine depth inside value) := by
  induction depth generalizing inside value with
  | zero => exact .throw (fails_tooDeep _)
  | succ depth ih =>
    unfold quotedWithin
    grind

@[grind ←]
theorem keeps_quoted (h : d.Governs engine) (value : Value) : d.Keeps (quoted engine value) :=
  keeps_quotedWithin h _ _ value

@[grind ←]
theorem keeps_systemErrorText {text quotedForm : Value → Action String}
    (ht : ∀ value, d.Keeps (text value)) (hq : ∀ value, d.Keeps (quotedForm value))
    (number reason : Value) (files : List Value) :
    d.Keeps (systemErrorText text quotedForm number reason files) := by
  unfold systemErrorText
  grind

@[grind ←]
theorem keeps_exceptionText {text quotedForm : Value → Action String}
    (ht : ∀ value, d.Keeps (text value)) (hq : ∀ value, d.Keeps (quotedForm value))
    (kind : String) (arguments details : List Value) :
    d.Keeps (exceptionText text quotedForm kind arguments details) := by
  unfold exceptionText
  grind

@[grind ←]
theorem keeps_plainWithin (h : d.Governs engine) (depth : Nat) (value : Value) :
    d.Keeps (plainWithin engine depth value) := by
  induction depth generalizing value with
  | zero => exact .throw (fails_tooDeep _)
  | succ depth ih =>
    unfold plainWithin
    grind

@[grind ←]
theorem keeps_plain (h : d.Governs engine) (value : Value) : d.Keeps (plain engine value) :=
  keeps_plainWithin h _ value

@[grind ←]
theorem keeps_worded (h : d.Governs engine) (f : Failure) : d.Keeps (worded engine f) := by
  unfold worded
  grind

@[grind ←]
theorem keeps_jsonWithin (depth : Nat) (inside : List ObjectId) (value : Value) :
    d.Keeps (jsonWithin depth inside value) := by
  induction depth generalizing inside value with
  | zero => exact .throw (fails_tooDeep _)
  | succ depth ih =>
    unfold jsonWithin
    cases value with
    | object id =>
      refine (keeps_object id).bind fun o _ => ?_
      split <;> grind
    | _ => grind

@[grind ←]
theorem keeps_json (value : Value) : d.Keeps (json value) := keeps_jsonWithin _ _ value

/-! ## Truth and equality -/

@[grind ←]
theorem keeps_index? (h : d.Governs engine) (value : Value) : d.Keeps (index? engine value) := by
  unfold index?
  grind

@[grind ←]
theorem keeps_indexOnly (h : d.Governs engine) (value : Value) :
    d.Keeps (indexOnly engine value) := by
  unfold indexOnly
  grind

@[grind ←]
theorem keeps_objectTruth (h : d.Governs engine) (value : Value) (o : Object) :
    d.Keeps (objectTruth engine value o) := by
  unfold objectTruth
  grind

@[grind ←]
theorem keeps_truth (h : d.Governs engine) (value : Value) : d.Keeps (truth engine value) := by
  unfold truth
  grind

section Asking

variable {ask : Value → Value → Action Bool}

@[grind ←]
theorem keeps_allEqual (ha : ∀ a b, d.Keeps (ask a b)) (as bs : List Value) :
    d.Keeps (allEqual ask as bs) := by
  fun_induction allEqual ask as bs with
  | case1 => exact .pure true
  | case2 a as b bs ih => grind
  | case3 => exact .pure false

@[grind ←]
theorem keeps_sameEntries (ha : ∀ a b, d.Keeps (ask a b)) (others entries : List (String × Value)) :
    d.Keeps (sameEntries ask others entries) := by
  induction entries with
  | nil => exact .pure true
  | cons entry rest ih =>
    unfold sameEntries
    grind

@[grind ←]
theorem keeps_equalAnswer? (h : d.Governs engine) (ha : ∀ a b, d.Keeps (ask a b)) (a b : Value) :
    d.Keeps (equalAnswer? engine ask a b) := by
  unfold equalAnswer?
  split
  · exact .pure _
  split
  · exact .pure _
  · refine (keeps_object _).bind fun o _ => (keeps_object? _).bind fun other _ => ?_
    split <;> grind
  · exact .pure _

end Asking

@[grind ←]
theorem keeps_equalWithin (h : d.Governs engine) (depth : Nat) (a b : Value) :
    d.Keeps (equalWithin engine depth a b) := by
  induction depth generalizing a b with
  | zero => exact .throw (fails_tooDeep _)
  | succ depth ih =>
    unfold equalWithin
    grind

@[grind ←]
theorem keeps_equal (h : d.Governs engine) (a b : Value) : d.Keeps (equal engine a b) :=
  keeps_equalWithin h _ a b

@[grind ←]
theorem keeps_isEqual (h : d.Governs engine) (a b : Value) : d.Keeps (isEqual engine a b) := by
  unfold isEqual
  grind

@[grind ←]
theorem keeps_unequalAnswer? (h : d.Governs engine) (a b : Value) :
    d.Keeps (unequalAnswer? engine a b) := by
  unfold unequalAnswer?
  grind

@[grind ←]
theorem keeps_unequal (h : d.Governs engine) (a b : Value) : d.Keeps (unequal engine a b) := by
  unfold unequal
  grind

@[grind ←]
theorem keeps_compare (h : d.Governs engine) (comparator : Comparator) (a b : Value) :
    d.Keeps (compare engine comparator a b) := by
  unfold compare
  grind

end UnitFoundry.Script.Discipline
