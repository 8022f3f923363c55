import UnitFoundry.Text.Numeral
import Mathlib.Data.Nat.Digits.Defs
import Mathlib.Data.List.Induction
import Mathlib.Data.List.TakeWhile
import Mathlib.Tactic.IntervalCases

/-!
# Digits of every script that are read as a number

A decimal digit counts in a numeral as the ASCII digit of its value, whatever its script is, and blanks at the
end of a numeral do not count. So a run of decimal digits is read as the number that they spell, unless there
are too many of them.

* `decimalValue` — the number that decimal digits spell, in positional notation;
* `plainNumeralChar_of_digitValue?` — a digit of any script as an ASCII digit;
* `readDigits_eq_some`, `readDecimal?_isSome_iff` — the runs of digits that denote a number;
* `digitsValue?_plain` — digits that are read in base ten;
* `readWhole_digits` — **the whole number that digits with blanks behind them are read as**.
-/

namespace UnitFoundry.Text

variable {c : Char} {d : Nat} {digits s t tail : List Char} {blank : Char → Bool}

/-! ## Single digits -/

/-- The value of a decimal digit; zero for other characters. -/
def digitValue (c : Char) : Nat := (digitValue? c).getD 0

theorem isDecimal_iff : isDecimal c = true ↔ digitValue? c = some (digitValue c) := by
  rw [isDecimal, digitValue]
  cases digitValue? c with
  | none => simp
  | some d => simp

/-- No run of digits has blanks in it, and one run only is within ASCII. -/
theorem decimalZeros_apart : ∀ start ∈ decimalZeros, start = 0x30 ∨ (0x660 ≤ start ∧ start + 10 ≤ 0x1680) ∨
    (0x1680 < start ∧ start + 10 ≤ 0x2000) ∨ 0x3000 < start := by
  decide

/-- The run of digits that a digit is in. -/
theorem exists_run_of_digitValue? (h : digitValue? c = some d) :
    ∃ start ∈ decimalZeros, c.toNat = start + d ∧ d < 10 := by
  obtain ⟨start, hfind, rfl⟩ := Option.map_eq_some_iff.1 h
  have hrun := List.find?_some hfind
  simp only [Bool.and_eq_true, decide_eq_true_eq] at hrun
  refine ⟨start, List.mem_of_find?_eq_some hfind, ?_, ?_⟩
  · omega
  · omega

theorem digitValue?_lt (h : digitValue? c = some d) : d < 10 := by
  obtain ⟨_, -, -, hlt⟩ := exists_run_of_digitValue? h
  exact hlt

/-- No digit is blank. -/
theorem isWideBlank_of_digitValue? (h : digitValue? c = some d) : isWideBlank c = false := by
  obtain ⟨start, hstart, hc, hlt⟩ := exists_run_of_digitValue? h
  have hapart := decimalZeros_apart start hstart
  simp only [isWideBlank, Bool.or_eq_false_iff, Bool.and_eq_false_iff, decide_eq_false_iff_not]
  omega

/-- A digit of any script counts as the ASCII digit of its value. -/
theorem plainNumeralChar_of_digitValue? (h : digitValue? c = some d) :
    plainNumeralChar c = Char.ofNat ('0'.toNat + d) := by
  obtain ⟨start, hstart, hc, hlt⟩ := exists_run_of_digitValue? h
  have hzero : '0'.toNat = 0x30 := rfl
  by_cases hascii : c.toNat < 0x80
  · have hapart := decimalZeros_apart start hstart
    have hcode : '0'.toNat + d = c.toNat := by omega
    rw [plainNumeralChar, if_pos hascii, hcode, Char.ofNat_toNat]
  · rw [plainNumeralChar, if_neg hascii, isWideBlank_of_digitValue? h, if_neg (by decide), h]

/-- An ASCII digit is a digit with its value, and neither blank nor a sign. -/
theorem ascii_digit (h : d < 10) : digitOf? (Char.ofNat ('0'.toNat + d)) = some d ∧
    (Char.ofNat ('0'.toNat + d)).isDigit = true ∧ isNarrowBlank (Char.ofNat ('0'.toNat + d)) = false ∧
    Char.ofNat ('0'.toNat + d) ≠ '-' ∧ Char.ofNat ('0'.toNat + d) ≠ '+' := by
  interval_cases d <;> decide

/-- What a decimal digit of any script counts as in a numeral. -/
theorem plainNumeralChar_of_isDecimal (h : isDecimal c = true) :
    digitOf? (plainNumeralChar c) = some (digitValue c) ∧ digitValue c < 10 ∧
      (plainNumeralChar c).isDigit = true ∧ isNarrowBlank (plainNumeralChar c) = false ∧
      plainNumeralChar c ≠ '-' ∧ plainNumeralChar c ≠ '+' := by
  have hvalue := isDecimal_iff.1 h
  have hlt := digitValue?_lt hvalue
  obtain ⟨hof, hdigit, hblank, hminus, hplus⟩ := ascii_digit hlt
  rw [plainNumeralChar_of_digitValue? hvalue]
  exact ⟨hof, hlt, hdigit, hblank, hminus, hplus⟩

/-! ## Runs of digits -/

/-- The number that decimal digits spell: the last of them counts once, the one before it ten times, and so on. -/
def decimalValue (digits : List Char) : Nat := Nat.ofDigits 10 (digits.reverse.map digitValue)

theorem decimalValue_concat (digits : List Char) (c : Char) :
    decimalValue (digits ++ [c]) = 10 * decimalValue digits + digitValue c := by
  rw [decimalValue, List.reverse_append, List.reverse_singleton, List.singleton_append, List.map_cons,
    Nat.ofDigits_cons, decimalValue]
  exact Nat.add_comm _ _

/-- Digits are read on from the digits before them. -/
theorem readDigits_eq_some {value n : Nat} (h : readDigits value s = some n) : ∀ c ∈ s, isDecimal c = true := by
  induction s generalizing value with
  | nil => simp
  | cons c rest ih =>
    cases hc : digitValue? c with
    | none => simp [readDigits, hc] at h
    | some d =>
      simp only [readDigits, hc] at h
      have hdecimal : isDecimal c = true := by simp [isDecimal, hc]
      exact List.forall_mem_cons.2 ⟨hdecimal, ih h⟩

theorem readDigits_isSome (h : ∀ c ∈ s, isDecimal c = true) (value : Nat) : (readDigits value s).isSome := by
  induction s generalizing value with
  | nil => rfl
  | cons c rest ih =>
    obtain ⟨hc, hrest⟩ := List.forall_mem_cons.1 h
    simp only [readDigits, isDecimal_iff.1 hc]
    exact ih hrest _

/-- The texts that denote a number are the runs of digits. -/
theorem readDecimal?_isSome_iff : (readDecimal? s).isSome ↔ s ≠ [] ∧ ∀ c ∈ s, isDecimal c = true := by
  cases s with
  | nil => simp [readDecimal?]
  | cons c rest =>
    constructor
    · intro h
      obtain ⟨n, hn⟩ := Option.isSome_iff_exists.1 h
      exact ⟨List.cons_ne_nil c rest, readDigits_eq_some hn⟩
    · rintro ⟨-, hall⟩
      exact readDigits_isSome hall 0

/-- The value of digits in base ten, after any number of them. -/
theorem foldl_plain (h : ∀ c ∈ digits, isDecimal c = true) :
    (digits.map plainNumeralChar).foldl (fun (value : Option Nat) c => do
      let value ← value
      let digit ← digitOf? c
      if digit < 10 then pure (10 * value + digit) else none) (some 0) = some (decimalValue digits) := by
  induction digits using List.reverseRecOn with
  | nil => rfl
  | append_singleton digits c ih =>
    obtain ⟨hof, hlt, -⟩ := plainNumeralChar_of_isDecimal (h c (by simp))
    have hstart := ih fun other hother => h other (by simp [hother])
    rw [List.map_append, List.foldl_append, hstart, decimalValue_concat]
    simp [hof, hlt]

/-- Digits of any script that are read in base ten. -/
theorem digitsValue?_plain (hne : digits ≠ []) (h : ∀ c ∈ digits, isDecimal c = true) :
    digitsValue? 10 (digits.map plainNumeralChar) = some (decimalValue digits) := by
  rw [digitsValue?, if_neg (by simpa using hne), foldl_plain h]

/-! ## Whole numbers -/

theorem dropWhile_of_none (h : ∀ c ∈ s, blank c = false) : s.dropWhile blank = s := by
  cases s with
  | nil => rfl
  | cons c rest => simp [h c List.mem_cons_self]

/-- A text without the blanks around it, if there are blanks behind it only. -/
theorem trim_append (hs : ∀ c ∈ s, blank c = false) (ht : ∀ c ∈ t, blank c = true) :
    (((s ++ t).dropWhile blank).reverse.dropWhile blank).reverse = s := by
  cases s with
  | nil =>
    have hnil : t.dropWhile blank = [] := List.dropWhile_eq_nil_iff.2 ht
    simp [hnil]
  | cons c rest =>
    have hfront : (c :: rest ++ t).dropWhile blank = c :: rest ++ t := by
      simp [hs c List.mem_cons_self]
    have hback : ((c :: rest).reverse).dropWhile blank = (c :: rest).reverse :=
      dropWhile_of_none fun other hother => hs other (List.mem_reverse.1 hother)
    rw [hfront, List.reverse_append, List.dropWhile_append_of_pos (by simpa using ht), hback,
      List.reverse_reverse]

/-- Digits with blanks behind them count as ASCII digits. -/
theorem plainNumeral_digits (h : ∀ c ∈ digits, isDecimal c = true)
    (htail : ∀ c ∈ tail, isNarrowBlank (plainNumeralChar c) = true) :
    plainNumeral (String.ofList (digits ++ tail)) = digits.map plainNumeralChar := by
  have hdigits : ∀ c ∈ digits.map plainNumeralChar, isNarrowBlank c = false := by
    intro c hc
    obtain ⟨digit, hdigit, rfl⟩ := List.mem_map.1 hc
    obtain ⟨-, -, -, hblank, -⟩ := plainNumeralChar_of_isDecimal (h digit hdigit)
    exact hblank
  have hblanks : ∀ c ∈ tail.map plainNumeralChar, isNarrowBlank c = true := by simpa using htail
  rw [plainNumeral, String.toList_ofList, List.map_append]
  exact trim_append hdigits hblanks

theorem cutSign_digits (h : ∀ c ∈ digits, isDecimal c = true) :
    cutSign (digits.map plainNumeralChar) = (false, digits.map plainNumeralChar) := by
  cases digits with
  | nil => rfl
  | cons c rest =>
    obtain ⟨-, -, -, -, hminus, hplus⟩ := plainNumeralChar_of_isDecimal (h c List.mem_cons_self)
    rw [List.map_cons, cutSign]
    · intro _ heq
      exact hminus (List.cons.inj heq).1
    · intro _ heq
      exact hplus (List.cons.inj heq).1

/-- There is no mark for base ten. -/
theorem withoutBaseMark_ten (s : List Char) : withoutBaseMark 10 s = s := by
  unfold withoutBaseMark
  split
  · simp
  · rfl

/-- **Digits of any script with blanks behind them are read as the number that they spell**, unless there are
too many of them. -/
theorem readWhole_digits (hne : digits ≠ []) (h : ∀ c ∈ digits, isDecimal c = true)
    (htail : ∀ c ∈ tail, isNarrowBlank (plainNumeralChar c) = true) :
    readWhole 10 (String.ofList (digits ++ tail)) =
      if digitLimit < digits.length then .error (tooManyDigits digits.length)
      else .ok (decimalValue digits) := by
  have hplain : (digits.map plainNumeralChar).all Char.isDigit = true := by
    rw [List.all_map, List.all_eq_true]
    intro c hc
    obtain ⟨-, -, hdigit, -⟩ := plainNumeralChar_of_isDecimal (h c hc)
    exact hdigit
  simp only [readWhole, plainNumeral_digits h htail, cutSign_digits h, withoutBaseMark_ten, hplain,
    digitsValue?_plain hne h, List.length_map]
  by_cases hlimit : digitLimit < digits.length
  · simp [hlimit]
  · simp [hlimit]

end UnitFoundry.Text
