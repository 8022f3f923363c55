import UnitFoundry.Proofs.Script.Builtins

/-!
# Scripts keep to a discipline

Expressions and statements, by recursion on the script, and the calls that run the body of a
function. What an engine does one level further up is made of the calls described here, so an engine
that is governed governs the next (`Governs.next`).
-/

namespace UnitFoundry.Script.Discipline

open Text

variable {d : Discipline} {α : Type} {engine : Engine}

/-! ## Expressions -/

@[grind ←]
theorem keeps_settled (e : Expr) (value : Value) : d.running.Keeps (settled e value) := by
  unfold settled
  split
  · exact keeps_framed (fun _ _ => .pure _) fun _ _ h => by rw [h]
  · exact .pure value

theorem keeps_constant (value : Constant) :
    d.running.Keeps (do pure (.ofConstant (← get).frame.home value) : Run Value) :=
  keeps_framed (fun _ _ => .pure _) fun _ _ h => by rw [h]

@[grind ←]
theorem keeps_newFunction (name : String) (parameters : List String) (body : List Statement) :
    d.running.Keeps (newFunction name parameters body) := by
  refine keeps_framed (fun r _ => ?_) fun _ _ h => by rw [h]
  exact keeps_home.bind fun m _ => keeps_lift (keeps_newObject _)

mutual

@[grind ←]
theorem keeps_evaluate (h : d.Governs engine) :
    ∀ e : Expr, d.running.Keeps (evaluate engine e)
  | .constant value => by unfold evaluate; exact keeps_constant value
  | .formatted text => by unfold evaluate; exact keeps_constant (.text text)
  | .name id => by unfold evaluate; grind
  | .list items => by
    unfold evaluate
    have hitems := keeps_evaluateAll h items
    grind
  | .tuple items => by
    unfold evaluate
    have hitems := keeps_evaluateAll h items
    grind
  | .attribute object name => by
    unfold evaluate
    have hobject := keeps_evaluate h object
    grind
  | .call _ function arguments => by
    unfold evaluate
    have hfunction := keeps_evaluate h function
    have harguments := keeps_evaluateAll h arguments
    grind
  | .item line object index => by
    unfold evaluate
    have hobject := keeps_evaluate h object
    have hindex := keeps_evaluate h index
    grind
  | .minus operand => by
    unfold evaluate
    have hoperand := keeps_evaluate h operand
    grind
  | .binary operator left right => by
    unfold evaluate
    have hleft := keeps_evaluate h left
    have hright := keeps_evaluate h right
    grind
  | .comparison _ first comparators rest => by
    unfold evaluate
    have hfirst := keeps_evaluate h first
    have hchain := fun left => keeps_evaluateChain h left comparators rest
    grind
  | .either left right => by
    unfold evaluate
    have hleft := keeps_evaluate h left
    have hright := keeps_evaluate h right
    grind
  | .lambda parameters body => by unfold evaluate; grind
  | .binding name value => by
    unfold evaluate
    have hvalue := keeps_evaluate h value
    grind

@[grind ←]
theorem keeps_evaluateAll (h : d.Governs engine) :
    ∀ es : List Expr, d.running.Keeps (evaluateAll engine es)
  | [] => by unfold evaluateAll; exact .pure []
  | e :: rest => by
    unfold evaluateAll
    have he := keeps_evaluate h e
    have hrest := keeps_evaluateAll h rest
    grind

@[grind ←]
theorem keeps_evaluateChain (h : d.Governs engine) (left : Value) :
    ∀ (comparators : List Comparator) (es : List Expr),
      d.running.Keeps (evaluateChain engine left comparators es)
  | [comparator], [e] => by
    unfold evaluateChain
    have he := keeps_evaluate h e
    grind
  | comparator :: comparators, e :: rest => by
    unfold evaluateChain
    have he := keeps_evaluate h e
    have hchain := fun left => keeps_evaluateChain h left comparators rest
    grind
  | [], _ => by unfold evaluateChain; grind
  | _ :: _, [] => by unfold evaluateChain; grind

end

@[grind ←]
theorem keeps_evaluateOption (h : d.Governs engine) (e : Option Expr) :
    d.running.Keeps (evaluateOption engine e) := by
  unfold evaluateOption
  grind

/-! ## Imports -/

@[grind ←]
theorem keeps_importInto (h : d.Governs engine) (name : String) (wanted : List String)
    (level : Nat) : d.running.Keeps (importInto engine name wanted level) := by
  unfold importInto
  grind

@[grind ←]
theorem keeps_importModules (h : d.Governs engine) (wanted : List (String × Option String)) :
    d.running.Keeps (importModules engine wanted) := by
  induction wanted with
  | nil => exact .pure ()
  | cons one rest ih =>
    obtain ⟨name, as_⟩ := one
    refine (keeps_importInto h name [] 0).bind fun value _ => ?_
    cases as_ <;> grind

@[grind ←]
theorem keeps_bindNames (h : d.Governs engine) (value : Value)
    (wanted : List (String × Option String)) : d.running.Keeps (bindNames engine value wanted) := by
  induction wanted with
  | nil => exact .pure ()
  | cons one rest ih =>
    unfold bindNames
    grind

@[grind ←]
theorem keeps_bindAttributes (h : d.Governs engine) (value : Value) (names : List String) :
    d.running.Keeps (bindAttributes engine value names) := by
  unfold bindAttributes
  grind

@[grind ←]
theorem keeps_bindOffered (h : d.Governs engine) (value listed : Value) (limit place : Nat) :
    d.running.Keeps (bindOffered engine value listed limit place) := by
  induction limit generalizing place with
  | zero => exact .pure ()
  | succ limit ih =>
    unfold bindOffered
    grind

@[grind ←]
theorem keeps_bindAll (h : d.Governs engine) (value : Value) :
    d.running.Keeps (bindAll engine value) := by
  unfold bindAll
  grind

@[grind ←]
theorem keeps_runImport (h : d.Governs engine) (what : Import) :
    d.running.Keeps (runImport engine what) := by
  unfold runImport
  grind

/-! ## Statements -/

@[grind ←]
theorem keeps_handles (value : Value) (f : Failure) : d.Keeps (handles value f) := by
  unfold handles
  grind

@[grind ←]
theorem keeps_matchesPattern (h : d.Governs engine) (pattern : Pattern) (value : Value) :
    d.running.Keeps (matchesPattern engine pattern value) := by
  unfold matchesPattern
  grind

@[grind ←]
theorem keeps_newType (name : String) (own : List (String × Value)) :
    d.Keeps (newType name own) := by
  unfold newType
  grind

mutual

@[grind ←]
theorem keeps_executeAll (h : d.Governs engine) :
    ∀ body : List Statement, d.running.Keeps (executeAll engine body)
  | [] => by unfold executeAll; exact .pure none
  | statement :: rest => by
    unfold executeAll
    have hstatement := keeps_execute h statement
    have hrest := keeps_executeAll h rest
    grind

@[grind ←]
theorem keeps_execute (h : d.Governs engine) :
    ∀ statement : Statement, d.running.Keeps (execute engine statement)
  | .expression value => by unfold execute; grind
  | .assign targets value => by unfold execute; grind
  | .annotate name type value => by
    unfold execute
    have hannotation : d.running.Keeps (do
        if (← get).frame.kind != .function then
          let _ ← evaluate engine type
        pure none : Run (Option Value)) := by
      refine keeps_framed (fun r _ => ?_) fun _ _ h => by rw [h]
      grind
    grind
  | .pass => by unfold execute; grind
  | .leaveLoop _ _ => by unfold execute; grind
  | .leaveFunction _ _ value => by unfold execute; grind
  | .raise value => by
    unfold execute
    refine (keeps_evaluateOption h value).bind fun raised _ =>
      keeps_framed (fun r hr => ?_) fun _ _ hframe => by rw [hframe]
    have hhandled := hr.handled
    grind
  | .assertion _ test message => by unfold execute; grind
  | .importing _ what => by unfold execute; grind
  | .function name parameters decorators body => by unfold execute; grind
  | .type name body => by
    unfold execute
    have hbody := keeps_executeAll h body
    refine keeps_framed (fun r _ => ?_) fun _ _ hframe => by rw [hframe]
    grind
  | .branch test body otherwise => by
    unfold execute
    have hbody := keeps_executeAll h body
    have hotherwise := keeps_executeAll h otherwise
    grind
  | .attempt body handlers => by
    unfold execute
    have hbody := keeps_executeAll h body
    have hhandlers := fun f hf => keeps_handle h f hf handlers
    grind
  | .choose subject cases => by
    unfold execute
    have hcases := fun value => keeps_choose h value cases
    grind
  | .within managers _ => by unfold execute; grind

@[grind ←]
theorem keeps_handle (h : d.Governs engine) (f : Failure) (hf : d.fails f) :
    ∀ handlers : List Handler, d.running.Keeps (handle engine f handlers)
  | [] => by unfold handle; exact .throw hf
  | .mk none body :: _ => by
    unfold handle
    exact keeps_executeAll h body
  | .mk (some kind) body :: rest => by
    unfold handle
    have hbody := keeps_executeAll h body
    have hrest := keeps_handle h f hf rest
    grind

@[grind ←]
theorem keeps_choose (h : d.Governs engine) (value : Value) :
    ∀ cases : List Case, d.running.Keeps (choose engine value cases)
  | [] => by unfold choose; exact .pure none
  | .mk pattern body :: rest => by
    unfold choose
    have hbody := keeps_executeAll h body
    have hrest := keeps_choose h value rest
    grind

end

/-! ## Calls -/

@[grind ←]
theorem keeps_runFunction (h : d.Governs engine) (f : Function) (arguments : List Value) :
    d.Keeps (runFunction engine f arguments) := by
  unfold runFunction
  split
  · exact .throw (d.raised _)
  · grind

@[grind ←]
theorem keeps_newInstance (h : d.Governs engine) (type : ObjectId) (definition : TypeDefinition)
    (arguments : List Value) : d.Keeps (newInstance engine type definition arguments) := by
  unfold newInstance
  grind

@[grind ←]
theorem keeps_instantiate (h : d.Governs engine) (type : ObjectId) (definition : TypeDefinition)
    (arguments : List Value) : d.Keeps (instantiate engine type definition arguments) := by
  unfold instantiate
  grind

@[grind ←]
theorem keeps_callMethod (h : d.Governs engine) (m : Method) (arguments : List Value) :
    d.Keeps (callMethod engine m arguments) := by
  unfold callMethod
  grind

@[grind ←]
theorem keeps_callDumps (arguments : List Value) : d.Keeps (callDumps arguments) := by
  unfold callDumps
  grind

@[grind ←]
theorem keeps_uncallable (value : Value) : d.Keeps (uncallable value : Action α) := by
  unfold uncallable
  grind

@[grind ←]
theorem keeps_callObject (h : d.Governs engine) (id : ObjectId) (arguments : List Value) :
    d.Keeps (callObject engine id arguments) := by
  unfold callObject
  grind

/-- **Calls keep to a discipline.** What a call does is made of the steps of scripts, and of the loads
and calls of the engine. -/
theorem keeps_call (h : d.Governs engine) (callee : Value) (arguments : List Value) :
    d.Keeps (call engine callee arguments) := by
  unfold call
  grind

end UnitFoundry.Script.Discipline
