import UnitFoundry.Yaml.Document
import Mathlib.Tactic.Common

/-!
# How texts cannot be read

Most texts that are no documents break the rules, or a scalar in them is no value of the kind that its tag asks for.
There are a few other failures, of which the rules know nothing: they come from what is done with a scalar before its
value is asked for. `Unreadable` lists all of them, and a reader that `Reads` fails with nothing else.

* `Stray`, `Unreadable` — the failures;
* `Reads`, `Reads.bind` and its kind — readers that are put together from such readers are such readers;
* `unreadable_of_codePoint`, … — the failures of single characters and scalars;
* `reads_tagHere`, `reads_quotedScalar`, … — readers of parts of a line.
-/

namespace UnitFoundry.Yaml

open Text

/-! ## Failures -/

/-- Failures that the rules know nothing of. -/
inductive Stray : Raised → Prop where
  /-- An escape has a number that is too great to be looked at. -/
  | wideEscape : Stray { kind := "OverflowError", message := "Python int too large to convert to C int" }
  /-- A real number has too many places of base sixty. -/
  | longReal : Stray { kind := "OverflowError", message := "int too large to convert to float" }
  /-- There is no first digit of a number. -/
  | noDigit : Stray { kind := "IndexError", message := "string index out of range" }
  /-- The tag of flags stands before another word. -/
  | noFlag (word : String) : Stray { kind := "KeyError", message := quote word }
  /-- The tag of moments stands before what is none. -/
  | noMoment : Stray { kind := "AttributeError", message := "'NoneType' object has no attribute 'groupdict'" }
  /-- The spelling of a mapping is that of the mapping itself. -/
  | circle : Stray endless

/-- The failures with which a text cannot be read. -/
inductive Unreadable : Raised → Prop where
  | rules : Unreadable unreadable
  | value (message : String) : Unreadable (faultyValue message)
  | stray {why : Raised} (h : Stray why) : Unreadable why

attribute [grind ←] Unreadable.rules Unreadable.value

theorem Stray.kind_mem {why : Raised} (h : Stray why) :
    why.kind ∈ ["OverflowError", "IndexError", "KeyError", "AttributeError", "RecursionError"] := by
  cases h <;> simp [endless]

/-! ## Results -/

variable {σ α β : Type}

/-- A result that is there, or cannot be read. -/
def Yields (result : Except Raised α) : Prop := ∀ why, result = .error why → Unreadable why

namespace Yields

@[grind ←]
theorem ok (a : α) : Yields (.ok a) := by rintro why ⟨⟩

@[grind ←]
theorem error {why : Raised} (h : Unreadable why) : Yields (.error why : Except Raised α) := by
  rintro _ ⟨⟩
  exact h

@[grind ←]
theorem pure (a : α) : Yields (pure a : Except Raised α) := .ok a

@[grind ←]
theorem throw {why : Raised} (h : Unreadable why) : Yields (throw why : Except Raised α) := .error h

@[grind ←]
theorem bind {x : Except Raised α} {f : α → Except Raised β} (hx : Yields x) (hf : ∀ a, Yields (f a)) :
    Yields (x >>= f) := by
  cases x with
  | ok a => exact hf a
  | error e => exact .error (hx e rfl)

@[grind ←]
theorem map {x : Except Raised α} {f : α → β} (hx : Yields x) : Yields (f <$> x) := by
  cases x with
  | ok a => exact .ok (f a)
  | error e => exact .error (hx e rfl)

@[grind ←]
theorem mapM {f : α → Except Raised β} {l : List α} (h : ∀ a, Yields (f a)) : Yields (l.mapM f) := by
  induction l with
  | nil => exact .pure []
  | cons a l ih =>
    rw [List.mapM_cons]
    exact (h a).bind fun b => ih.bind fun bs => .pure (b :: bs)

/-- What is no value of its kind cannot be read. -/
@[grind ←]
theorem of_faultyValue {x : Except String α} : Yields (x.mapError faultyValue) := by
  cases x with
  | ok a => exact .ok a
  | error message => exact .error (.value message)

end Yields

/-! ## Scalars -/

@[grind ←]
theorem yields_codePoint (n : Nat) : Yields (codePoint n) := by
  unfold codePoint
  split
  · exact .error (.stray .wideEscape)
  · split
    · exact .error (.value _)
    · exact .ok n

theorem yields_readSign (s : String) : Yields (readSign s) := by
  unfold readSign
  dsimp only
  split
  · exact .error (.stray .noDigit)
  · exact .ok _

theorem yields_readFlag (s : String) : Yields (readFlag s) := by
  unfold readFlag
  dsimp only
  split
  · exact .ok _
  · split
    · exact .ok _
    · exact .error (.stray (.noFlag _))

theorem yields_readInteger (s : String) : Yields (readInteger s) := by
  have hbase (base : Nat) (t : String) : Yields (readBase base t) := .of_faultyValue
  refine (yields_readSign s).bind fun (negative, unsigned) => ?_
  dsimp only
  split
  · exact .bind (.throw (.stray .noDigit)) fun n => .pure _
  · exact .pure _
  · exact (hbase 2 _).bind fun n => .pure _
  · exact (hbase 16 _).bind fun n => .pure _
  · exact (hbase 8 _).bind fun n => .pure _
  · split
    · exact (Yields.mapM fun place => hbase 10 _).bind fun places => .pure _
    · exact (hbase 10 _).bind fun n => .pure _

theorem yields_sumPlaces (base : Nat) (sum : Binary64) (places : List Binary64) :
    Yields (sumPlaces base sum places) := by
  induction places generalizing base sum with
  | nil => exact .ok sum
  | cons place places ih =>
    rw [sumPlaces]
    split
    · exact ih _ _
    · exact .error (.stray .longReal)

theorem yields_readReal (s : String) : Yields (readReal s) := by
  refine (yields_readSign _).bind fun (negative, unsigned) => ?_
  dsimp only
  split
  · exact .pure _
  · split
    · exact .pure _
    · split
      · exact (Yields.mapM fun place => .of_faultyValue).bind fun places =>
          (yields_sumPlaces _ _ _).bind fun x => .pure _
      · exact Yields.of_faultyValue.bind fun x => .pure _

theorem yields_zoneOf (zone : Option Bool × List Char × List Char) : Yields (Moment.zoneOf zone) := by
  unfold Moment.zoneOf
  dsimp only
  split
  · exact .ok _
  · exact .error (.value _)

theorem yields_momentOfText (text : MomentText) : Yields (Moment.ofText text) := by
  have hzone (zone : Option (Option Bool × List Char × List Char)) :
      Yields (zone.mapM Moment.zoneOf : Except Raised (Option Span)) := by
    cases zone with
    | none => exact .pure none
    | some zone =>
      rw [Option.mapM_some]
      exact (yields_zoneOf zone).map
  unfold Moment.ofText
  dsimp only
  split
  · refine .bind (.pure none) fun clock => ?_
    split
    · exact .throw (.value _)
    · exact .pure _
  · refine (hzone _).bind fun zone => .bind (.pure _) fun clock => ?_
    split
    · exact .throw (.value _)
    · exact .pure _

/-- **What a scalar stands for is there, or the scalar cannot be read.** -/
@[grind ←]
theorem yields_scalarDatum (name : String) (spelling : Spelling) : Yields (scalarDatum name spelling) := by
  unfold scalarDatum
  dsimp only
  split
  · exact .ok _
  · exact (yields_readFlag _).map
  · exact (yields_readInteger _).map
  · exact (yields_readReal _).map
  · split
    · exact .ok _
    · exact .error .rules
  · split
    · exact (yields_momentOfText _).map
    · exact .error (.stray .noMoment)
  · split
    · exact .ok _
    · exact .ok _
  · exact .error .rules

/-! ## Readers -/

/-- A reader that fails only because a text cannot be read. -/
def Reads (act : EStateM Raised σ α) : Prop := ∀ s why t, act s = .error why t → Unreadable why

namespace Reads

@[grind ←]
theorem pure (a : α) : Reads (pure a : EStateM Raised σ α) := by rintro s why t ⟨⟩

@[grind ←]
theorem throw {why : Raised} (h : Unreadable why) : Reads (throw why : EStateM Raised σ α) := by
  rintro s _ t ⟨⟩
  exact h

@[grind ←]
theorem get : Reads (get : EStateM Raised σ σ) := by rintro s why t ⟨⟩

@[grind ←]
theorem set (s : σ) : Reads (set s : EStateM Raised σ PUnit) := by rintro s why t ⟨⟩

@[grind ←]
theorem modify (f : σ → σ) : Reads (modify f : EStateM Raised σ PUnit) := by rintro s why t ⟨⟩

@[grind ←]
theorem bind {x : EStateM Raised σ α} {f : α → EStateM Raised σ β} (hx : Reads x) (hf : ∀ a, Reads (f a)) :
    Reads (x >>= f) := by
  intro s why t h
  simp only [Bind.bind, EStateM.bind] at h
  cases hr : x s with
  | ok a u =>
    rw [hr] at h
    exact hf a u why t h
  | error e u =>
    rw [hr] at h
    cases h
    exact hx s _ _ hr

@[grind ←]
theorem map {x : EStateM Raised σ α} {f : α → β} (hx : Reads x) : Reads (f <$> x) :=
  bind hx fun a => pure (f a)

theorem ite {p : Prop} [Decidable p] {x y : EStateM Raised σ α} (hx : Reads x) (hy : Reads y) :
    Reads (if p then x else y) := by
  split
  · exact hx
  · exact hy

@[grind ←]
theorem of_yields {x : Except Raised α} (hx : Yields x) : Reads (ofExcept x : EStateM Raised σ α) := by
  cases x with
  | ok a => exact pure a
  | error e => exact throw (hx e rfl)

@[grind ←]
theorem mapM {l : List α} {f : α → EStateM Raised σ β} (h : ∀ a, Reads (f a)) : Reads (l.mapM f) := by
  induction l with
  | nil => exact pure []
  | cons a l ih =>
    rw [List.mapM_cons]
    exact (h a).bind fun b => ih.bind fun bs => pure _

@[grind ←]
theorem forM {l : List α} {f : α → EStateM Raised σ PUnit} (h : ∀ a, Reads (f a)) : Reads (l.forM f) := by
  induction l with
  | nil => exact pure _
  | cons a l ih => exact (h a).bind fun _ => ih

@[grind ←]
theorem forIn {l : List α} {b : β} {f : α → β → EStateM Raised σ (ForInStep β)}
    (h : ∀ a b, Reads (f a b)) : Reads (forIn l b f) := by
  induction l generalizing b with
  | nil => exact pure b
  | cons a l ih =>
    rw [List.forIn_cons]
    refine (h a b).bind fun next => ?_
    cases next with
    | done b => exact pure b
    | yield b => exact ih

@[grind ←]
theorem filterM {l : List α} {f : α → EStateM Raised σ Bool} (h : ∀ a, Reads (f a)) : Reads (l.filterM f) := by
  have go : ∀ l kept : List α, Reads (List.filterAuxM f l kept) := by
    intro l
    induction l with
    | nil => exact fun kept => pure kept
    | cons a l ih => exact fun kept => (h a).bind fun b => ih _
  exact (go l []).bind fun kept => pure _

end Reads

end UnitFoundry.Yaml
