import UnitFoundry.Proofs.Script.Values
import UnitFoundry.Script.Importing

/-!
# What every script has keeps to a discipline

Operators, items, exceptions, types, functions and imports: all that a script can do by the names
which every script has. As with values, each operation keeps to every discipline that governs the
engine.
-/

namespace UnitFoundry.Script.Discipline

open Text

variable {d : Discipline} {α : Type} {engine : Engine}

/-! ## Operators -/

@[grind ←]
theorem keeps_unsupported (operator : Operator) (a b : Value) :
    d.Keeps (unsupported operator a b : Action α) := by
  unfold unsupported
  grind

@[grind ←]
theorem keeps_unjoinable (a b : Value) : d.Keeps (unjoinable a b : Action α) := by
  unfold unjoinable
  grind

@[grind ←]
theorem keeps_calculate (operator : Operator) (m n : Int) :
    d.Keeps (calculate operator m n) := by
  unfold calculate
  grind

@[grind ←]
theorem keeps_join (a b : Value) : d.Keeps (join a b) := by
  unfold join
  split
  · grind
  · exact keeps_unjoinable _ _
  · refine (keeps_object? a).bind fun left _ => (keeps_object? b).bind fun right _ => ?_
    split <;> grind

@[grind ←]
theorem keeps_operandAnswer? (h : d.Governs engine) (value : Value) (name : String)
    (other : Value) : d.Keeps (operandAnswer? engine value name other) := by
  unfold operandAnswer?
  grind

@[grind ←]
theorem keeps_operate (h : d.Governs engine) (operator : Operator) (a b : Value) :
    d.Keeps (operate engine operator a b) := by
  refine (keeps_operandAnswer? h a _ b).bind fun found _ => ?_
  cases found with
  | some value => exact .pure value
  | none =>
    refine (keeps_typeOf a).bind fun left _ => (keeps_typeOf b).bind fun right _ => ?_
    split <;> grind

@[grind ←]
theorem keeps_negate (h : d.Governs engine) (a : Value) : d.Keeps (negate engine a) := by
  unfold negate
  grind

/-! ## Items -/

@[grind ←]
theorem keeps_pick (h : d.Governs engine) (sequence : Value) (items : List Value)
    (index : Value) : d.Keeps (pick engine sequence items index) := by
  unfold pick
  grind

@[grind ←]
theorem keeps_noItems (value : Value) : d.Keeps (noItems value : Action α) := by
  unfold noItems
  grind

@[grind ←]
theorem keeps_charactersOf (s : String) : d.Keeps (charactersOf s) := by
  unfold charactersOf
  grind

@[grind ←]
theorem keeps_item (h : d.Governs engine) (value index : Value) :
    d.Keeps (item engine value index) := by
  unfold item
  grind

@[grind ←]
theorem keeps_itemsFrom {operation : List Value → Action Value}
    (ho : ∀ arguments, d.Keeps (operation arguments)) (limit n : Nat) :
    d.Keeps (itemsFrom operation limit n) := by
  induction limit generalizing n with
  | zero => exact .pure []
  | succ limit ih =>
    unfold itemsFrom
    grind

@[grind ←]
theorem keeps_itemsOf (h : d.Governs engine) (value : Value) : d.Keeps (itemsOf engine value) := by
  unfold itemsOf
  grind

/-! ## Exceptions -/

@[grind ←]
theorem keeps_wrongType (message : String) : d.Keeps (wrongType message : Action α) :=
  keeps_exception _ _

@[grind ←]
theorem keeps_faultException (h : d.Governs engine) (kind : String) (arguments : List Value) :
    d.Keeps (faultException engine kind arguments) := by
  unfold faultException
  grind

@[grind ←]
theorem keeps_checkShape (h : d.Governs engine) (place : Nat) (shape : List Char)
    (arguments : List Value) : d.Keeps (checkShape engine place shape arguments) := by
  induction shape generalizing place arguments with
  | nil =>
    unfold checkShape
    grind
  | cons letter shape ih =>
    unfold checkShape
    grind

@[grind ←]
theorem keeps_textFault (h : d.Governs engine) (kind shape : String) (arguments : List Value) :
    d.Keeps (textFault engine kind shape arguments) := by
  unfold textFault
  grind

@[grind ←]
theorem keeps_memberKinds (place : Nat) (members : List Value) :
    d.Keeps (memberKinds place members) := by
  induction members generalizing place with
  | nil => exact .pure []
  | cons value rest ih =>
    unfold memberKinds
    grind

@[grind ←]
theorem keeps_isSequence (value : Value) : d.Keeps (isSequence value) := by
  unfold isSequence
  grind

@[grind ←]
theorem keeps_groupOf (h : d.Governs engine) (kind : String) (arguments : List Value)
    (members : Value) : d.Keeps (groupOf engine kind arguments members) := by
  unfold groupOf
  grind

@[grind ←]
theorem keeps_exceptionGroup (h : d.Governs engine) (kind : String) (arguments : List Value) :
    d.Keeps (exceptionGroup engine kind arguments) := by
  unfold exceptionGroup
  grind

@[grind ←]
theorem keeps_newException (h : d.Governs engine) (kind : String) (arguments : List Value) :
    d.Keeps (newException engine kind arguments) := by
  unfold newException
  grind

@[grind ←]
theorem keeps_thrown (h : d.Governs engine) (value : Value) : d.Keeps (thrown engine value) := by
  unfold thrown
  grind

/-- What raises a value is the exception itself, or an exception that says it is none. -/
@[grind →]
theorem fails_of_gives_thrown {value : Value} {f : Failure}
    (h : d.Gives (thrown engine value) f) : d.fails f := by
  obtain ⟨s, t, -, h⟩ := h
  unfold thrown at h
  split at h
  -- whether a type was called first or not, what is raised is looked at in the same way
  all_goals
    obtain ⟨made, u, -, h⟩ := Action.bind_eq_ok.1 h
    obtain ⟨o, v, -, h⟩ := Action.bind_eq_ok.1 h
    split at h
    · cases h
      exact d.thrown _ _
    · cases h
      exact d.raised _

/-! ## Types and functions -/

@[grind ←]
theorem keeps_takesExactly (name : String) (expected given : Nat) :
    d.Keeps (takesExactly name expected given : Action α) := by
  unfold takesExactly
  grind

@[grind ←]
theorem keeps_expects (name bound : String) (limit given : Nat) :
    d.Keeps (expects name bound limit given : Action α) :=
  keeps_wrongType _

@[grind ←]
theorem keeps_isOfType (h : d.Governs engine) (value type : Value) :
    d.Keeps (isOfType engine value type) := by
  unfold isOfType
  grind

@[grind ←]
theorem keeps_isInstance (h : d.Governs engine) (value type : Value) :
    d.Keeps (isInstance engine value type) := by
  unfold isInstance
  grind

@[grind ←]
theorem keeps_toWhole (h : d.Governs engine) (value : Value) : d.Keeps (toWhole engine value) := by
  unfold toWhole
  grind

@[grind ←]
theorem keeps_callType (h : d.Governs engine) (name : String) (arguments : List Value) :
    d.Keeps (callType engine name arguments) := by
  unfold callType
  grind

@[grind ←]
theorem keeps_lengthOf (h : d.Governs engine) (value : Value) :
    d.Keeps (lengthOf engine value) := by
  unfold lengthOf
  grind

@[grind ←]
theorem keeps_attributeName (name : Value) : d.Keeps (attributeName name) := by
  unfold attributeName
  grind

@[grind ←]
theorem keeps_setAttribute (value : Value) (name : String) (to_ : Value) :
    d.Keeps (setAttribute value name to_) := by
  unfold setAttribute
  grind

@[grind ←]
theorem keeps_callFunction (h : d.Governs engine) (name : String) (arguments : List Value) :
    d.Keeps (callFunction engine name arguments) := by
  unfold callFunction
  grind

/-! ## Imports -/

@[grind ←]
theorem keeps_resolve (from_ : ContextId) (name : String) :
    d.Keeps (Import.resolve from_ name) := by
  unfold Import.resolve
  grind

section Absent

open Contract

@[grind ←]
theorem raises_notFound (name reason : String) :
    Raises (.error (Import.notFound name reason) : Except Failure α) :=
  .error _ _

@[grind ←]
theorem raises_noPackage : Raises (.error Import.noPackage : Except Failure α) := .error _ _

@[grind ←]
theorem raises_findLibraryFrom (done : String) (found : Option Library) (parts : List String) :
    Raises (Import.findLibraryFrom done found parts) := by
  fun_induction Import.findLibraryFrom done found parts <;> grind

@[grind ←]
theorem raises_findLibrary (name : String) : Raises (Import.findLibrary name) := by
  unfold Import.findLibrary
  grind

@[grind ←]
theorem raises_absoluteName (package name : String) (level : Nat) :
    Raises (Import.absoluteName package name level) := by
  unfold Import.absoluteName
  grind

@[grind ←]
theorem raises_packageFromName (names : List (String × Value)) :
    Raises (Import.packageFromName names) := by
  unfold Import.packageFromName
  grind

@[grind ←]
theorem raises_importLibrary (package name : String) (isWanted : Bool) (level : Nat) :
    Raises (Import.importLibrary package name isWanted level) := by
  unfold Import.importLibrary
  grind

end Absent

@[grind ←]
theorem keeps_packageOf (h : d.Governs engine) (names : List (String × Value)) :
    d.Keeps (Import.packageOf engine names) := by
  unfold Import.packageOf
  grind

@[grind ←]
theorem keeps_nestParts (module : Value) (parts : List String) :
    d.Keeps (Import.nestParts module parts) := by
  induction parts with
  | nil => exact .pure module
  | cons part rest ih =>
    unfold Import.nestParts
    grind

@[grind ←]
theorem keeps_nest (name : String) (module : Value) : d.Keeps (Import.nest name module) :=
  keeps_nestParts module _

@[grind ←]
theorem keeps_members {load : Import.Loader} (hl : ∀ id, d.Keeps (load id)) (from_ : ContextId)
    (package : String) (wanted : List String) (found : List (String × Value)) :
    d.Keeps (Import.members load from_ package wanted found) := by
  induction wanted generalizing found with
  | nil => exact .pure _
  | cons item rest ih =>
    unfold Import.members
    grind

@[grind ←]
theorem keeps_importUnit {load : Import.Loader} (hl : ∀ id, d.Keeps (load id)) (id : ContextId)
    (name : String) (wanted : List String) : d.Keeps (Import.importUnit load id name wanted) := by
  unfold Import.importUnit
  grind

@[grind ←]
theorem keeps_importOther {load : Import.Loader} (hl : ∀ id, d.Keeps (load id)) (from_ : ContextId)
    (name : String) (wanted : List String) : d.Keeps (Import.importOther load from_ name wanted) := by
  unfold Import.importOther
  grind

@[grind ←]
theorem keeps_importModule (h : d.Governs engine) (from_ : ContextId)
    (names : List (String × Value)) (name : String) (wanted : List String) (level : Nat) :
    d.Keeps (Import.importModule engine from_ names name wanted level) := by
  unfold Import.importModule
  grind

@[grind ←]
theorem keeps_loadOther (name : String) : d.Keeps (Import.loadOther name) := by
  unfold Import.loadOther
  grind

@[grind ←]
theorem keeps_loadUnit {load : Import.Loader} (hl : ∀ id, d.Keeps (load id)) (from_ : ContextId)
    (name : String) : d.Keeps (Import.loadUnit load from_ name) := by
  unfold Import.loadUnit
  grind

/-! ## Imports by a call -/

@[grind ←]
theorem keeps_isHashed (value : Value) : d.Keeps (isHashed value) := by
  unfold isHashed
  grind

@[grind ←]
theorem keeps_resolveValue (h : d.Governs engine) (context : ContextId) (name : Value) :
    d.Keeps (resolveValue engine context name) := by
  unfold resolveValue
  grind

@[grind ←]
theorem keeps_importMembers (h : d.Governs engine) (context : ContextId) (package : String)
    (items : List Value) : d.Keeps (importMembers engine context package items) := by
  induction items with
  | nil => exact .pure _
  | cons item rest ih =>
    refine (keeps_plain h item).bind fun name _ => (keeps_resolve _ _).bind fun found _ => ?_
    cases found with
    | none => exact .pure none
    | some id =>
      refine (h.load id).bind fun m _ => ih.bind fun others _ => ?_
      cases others <;> exact .pure _

@[grind ←]
theorem keeps_bundleOf (members : List (Value × ModuleId)) : d.Keeps (bundleOf members) := by
  unfold bundleOf
  grind

@[grind ←]
theorem keeps_packageFrom (h : d.Governs engine) (globals : Value) (steps : Int) :
    d.Keeps (packageFrom engine globals steps) := by
  unfold packageFrom
  grind

@[grind ←]
theorem keeps_wantsNames (h : d.Governs engine) (listed : Option Value) :
    d.Keeps (wantsNames engine listed) := by
  unfold wantsNames
  grind

@[grind ←]
theorem keeps_checkWanted (h : d.Governs engine) (listed : Value) :
    d.Keeps (checkWanted engine listed) := by
  unfold checkWanted
  grind

@[grind ←]
theorem keeps_importLibraryValue (h : d.Governs engine) (name globals : Value)
    (listed : Option Value) (level : Value) :
    d.Keeps (importLibraryValue engine name globals listed level) := by
  unfold importLibraryValue
  grind

@[grind ←]
theorem keeps_wantedNames (h : d.Governs engine) (listed : Option Value) :
    d.Keeps (wantedNames engine listed) := by
  unfold wantedNames
  grind

@[grind ←]
theorem keeps_importNamedUnit (h : d.Governs engine) (id : ContextId) (name : Value)
    (listed : Option Value) : d.Keeps (importNamedUnit engine id name listed) := by
  unfold importNamedUnit
  grind

@[grind ←]
theorem keeps_importNamedOther (h : d.Governs engine) (context : ContextId) (name : Value)
    (listed : Option Value) {otherwise : Action Value} (ho : d.Keeps otherwise) :
    d.Keeps (importNamedOther engine context name listed otherwise) := by
  unfold importNamedOther
  grind

@[grind ←]
theorem keeps_importNamed (h : d.Governs engine) (context : ContextId) (name : Value)
    (listed : Option Value) {otherwise : Action Value} (ho : d.Keeps otherwise) :
    d.Keeps (importNamed engine context name listed otherwise) := by
  unfold importNamed
  grind

@[grind ←]
theorem keeps_callImporter (h : d.Governs engine) (context : ContextId)
    (arguments : List Value) : d.Keeps (callImporter engine context arguments) := by
  unfold callImporter
  grind

@[grind ←]
theorem keeps_sourceName (h : d.Governs engine) (value : Value) :
    d.Keeps (sourceName engine value) := by
  unfold sourceName
  grind

@[grind ←]
theorem keeps_sourceFile (value : Value) : d.Keeps (sourceFile value) := by
  unfold sourceFile
  grind

@[grind ←]
theorem keeps_importedName (h : d.Governs engine) (value : Value) (name : String) :
    d.Keeps (importedName engine value name) := by
  unfold importedName
  grind

@[grind ←]
theorem keeps_publicNames (value : Value) : d.Keeps (publicNames value) := by
  unfold publicNames
  grind

@[grind ←]
theorem keeps_offeredAt (h : d.Governs engine) (listed : Value) (place : Nat) :
    d.Keeps (offeredAt engine listed place) := by
  unfold offeredAt
  grind

@[grind ←]
theorem keeps_offeredName (h : d.Governs engine) (value found : Value) :
    d.Keeps (offeredName engine value found) := by
  unfold offeredName
  grind

end UnitFoundry.Script.Discipline
