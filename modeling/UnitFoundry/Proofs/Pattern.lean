import Mathlib.Data.List.Basic
import Mathlib.Tactic.Common

/-!
# Patterns that are erased from a text

A small language of patterns, matched by trying alternatives in turn: what a pattern leaves of a text are all
the rests it can leave, those of the longer repetitions first. To erase a pattern is to go through a text from
left to right and to leave out what the pattern matches first, wherever it matches.

* `Pattern.rests` — the rests that a pattern can leave, in the order in which they are tried;
* `Pattern.erase` — a text without what a pattern matches;
* `Reads` — **patterns that match a set of texts**, with one law for each way to put patterns together.
-/

namespace UnitFoundry

/-- What a pattern is made of. -/
inductive Pattern where
  /-- One character that passes a test. -/
  | one (test : Char → Bool)
  /-- Two patterns, one after the other. -/
  | andThen (first second : Pattern)
  /-- A pattern any number of times, as often as possible. -/
  | many (p : Pattern)
  /-- The end of the text, or the place before its final line feed. -/
  | atEnd

namespace Pattern

/-- The rests after any number of steps, those after more steps first. Steps that take nothing do not count, so
there are at most as many as there are characters. -/
def iterate (step : List Char → List (List Char)) : Nat → List Char → List (List Char)
  | 0, s => [s]
  | fuel + 1, s =>
    ((step s).filter (·.length < s.length)).flatMap (iterate step fuel) ++ [s]

/-- The rests that a pattern can leave of a text, in the order in which they are tried. -/
def rests : Pattern → List Char → List (List Char)
  | .one _, [] => []
  | .one test, c :: rest => if test c then [rest] else []
  | .andThen first second, s => (first.rests s).flatMap second.rests
  | .many p, s => iterate p.rests s.length s
  | .atEnd, s => if s = [] ∨ s = ['\n'] then [s] else []

/-- A text without what a pattern matches, from left to right. -/
def erase (p : Pattern) : List Char → List Char
  | [] => []
  | c :: rest =>
    match (p.rests (c :: rest)).head? with
    | none => c :: p.erase rest
    | some after => if after.length ≤ rest.length then p.erase after else c :: p.erase rest
termination_by s => s.length

/-- A text that consists of the given characters. -/
def word : Char → List Char → Pattern
  | c, [] => .one (· = c)
  | c, next :: rest => .andThen (.one (· = c)) (word next rest)

/-- A pattern once, and then any number of times. -/
def oneOrMore (p : Pattern) : Pattern := p.andThen p.many

/-! ## What patterns match -/

variable {p q : Pattern} {L M : List Char → Prop} {s after : List Char} {c : Char}

/-- A pattern matches just the texts of a set, whatever comes after them. -/
def Reads (p : Pattern) (L : List Char → Prop) : Prop :=
  ∀ s after, after ∈ p.rests s ↔ ∃ m, L m ∧ s = m ++ after

theorem Reads.congr (hp : p.Reads L) (h : ∀ m, L m ↔ M m) : p.Reads M := by
  intro s after
  simp only [hp s after, h]

theorem reads_one (test : Char → Bool) : (one test).Reads fun m => ∃ c, test c = true ∧ m = [c] := by
  intro s after
  cases s with
  | nil => simp [rests]
  | cons c rest =>
    constructor
    · intro h
      by_cases hc : test c = true
      · obtain rfl : after = rest := by simpa [rests, hc] using h
        exact ⟨[c], ⟨c, hc, rfl⟩, rfl⟩
      · simp [rests, hc] at h
    · rintro ⟨_, ⟨d, hd, rfl⟩, hs⟩
      obtain ⟨rfl, rfl⟩ : c = d ∧ rest = after := by simpa using hs
      simp [rests, hd]

theorem Reads.andThen (hp : p.Reads L) (hq : q.Reads M) :
    (p.andThen q).Reads fun m => ∃ x y, L x ∧ M y ∧ m = x ++ y := by
  intro s after
  rw [rests, List.mem_flatMap]
  constructor
  · rintro ⟨middle, hmiddle, hafter⟩
    obtain ⟨x, hx, rfl⟩ := (hp s middle).1 hmiddle
    obtain ⟨y, hy, rfl⟩ := (hq middle after).1 hafter
    exact ⟨x ++ y, ⟨x, y, hx, hy, rfl⟩, by simp⟩
  · rintro ⟨m, ⟨x, y, hx, hy, rfl⟩, rfl⟩
    exact ⟨y ++ after, (hp _ _).2 ⟨x, hx, by simp⟩, (hq _ _).2 ⟨y, hy, rfl⟩⟩

theorem reads_word (c : Char) (rest : List Char) : (word c rest).Reads fun m => m = c :: rest := by
  induction rest generalizing c with
  | nil =>
    intro s after
    simpa [word] using reads_one (· = c) s after
  | cons next rest ih =>
    intro s after
    simpa [word] using (reads_one (· = c)).andThen (ih next) s after

/-- Any number of texts of a set, none of which is empty. -/
theorem Reads.iterate (hp : p.Reads L) (hne : ¬ L []) (fuel : Nat) (hfuel : s.length ≤ fuel) :
    after ∈ iterate p.rests fuel s ↔ ∃ ms : List (List Char), (∀ m ∈ ms, L m) ∧ s = ms.flatten ++ after := by
  induction fuel generalizing s with
  | zero =>
    obtain rfl : s = [] := by simpa using hfuel
    constructor
    · intro h
      obtain rfl : after = [] := by simpa [Pattern.iterate] using h
      exact ⟨[], by simp, rfl⟩
    · rintro ⟨ms, -, hs⟩
      have hafter : after = [] := (List.append_eq_nil_iff.1 hs.symm).2
      simp [Pattern.iterate, hafter]
  | succ fuel ih =>
    simp only [Pattern.iterate, List.mem_append, List.mem_flatMap, List.mem_filter, decide_eq_true_eq,
      List.mem_singleton]
    constructor
    · rintro (⟨next, ⟨hnext, hlt⟩, hafter⟩ | rfl)
      · obtain ⟨m, hm, rfl⟩ := (hp s next).1 hnext
        obtain ⟨ms, hms, rfl⟩ := (ih (by omega)).1 hafter
        exact ⟨m :: ms, by simpa [hm] using hms, by simp⟩
      · exact ⟨[], by simp, rfl⟩
    · rintro ⟨ms, hms, rfl⟩
      cases ms with
      | nil => exact .inr rfl
      | cons m ms =>
        have hm : L m := hms m List.mem_cons_self
        have hpos : 0 < m.length := List.length_pos_iff.2 fun hnil => hne (hnil ▸ hm)
        refine .inl ⟨ms.flatten ++ after, ⟨(hp _ _).2 ⟨m, hm, by simp⟩, ?_⟩, ?_⟩
        · simp only [List.flatten_cons, List.length_append]
          omega
        · refine (ih ?_).2 ⟨ms, fun k hk => hms k (List.mem_cons_of_mem _ hk), rfl⟩
          simp only [List.flatten_cons, List.length_append] at hfuel ⊢
          omega

theorem Reads.many (hp : p.Reads L) (hne : ¬ L []) :
    p.many.Reads fun m => ∃ ms : List (List Char), (∀ k ∈ ms, L k) ∧ m = ms.flatten := by
  intro s after
  rw [rests, hp.iterate hne s.length (Nat.le_refl _)]
  constructor
  · rintro ⟨ms, hms, hs⟩
    exact ⟨ms.flatten, ⟨ms, hms, rfl⟩, hs⟩
  · rintro ⟨m, ⟨ms, hms, rfl⟩, hs⟩
    exact ⟨ms, hms, hs⟩

/-- Any number of characters that pass a test. -/
theorem reads_many_one (test : Char → Bool) : (one test).many.Reads fun m => ∀ c ∈ m, test c = true := by
  refine ((reads_one test).many (by simp)).congr fun m => ?_
  constructor
  · rintro ⟨ms, hms, rfl⟩ c hc
    obtain ⟨k, hk, hck⟩ := List.mem_flatten.1 hc
    obtain ⟨d, hd, rfl⟩ := hms k hk
    rwa [List.mem_singleton.1 hck]
  · intro hm
    refine ⟨m.map ([·]), ?_, by simp [← List.flatMap_def]⟩
    intro k hk
    obtain ⟨c, hc, rfl⟩ := List.mem_map.1 hk
    exact ⟨c, hm c hc, rfl⟩

theorem Reads.oneOrMore (hp : p.Reads L) (hne : ¬ L []) :
    p.oneOrMore.Reads fun m => ∃ ms : List (List Char), ms ≠ [] ∧ (∀ k ∈ ms, L k) ∧ m = ms.flatten := by
  refine (hp.andThen (hp.many hne)).congr fun m => ?_
  constructor
  · rintro ⟨k, _, hk, ⟨ms, hms, rfl⟩, rfl⟩
    exact ⟨k :: ms, List.cons_ne_nil _ _, by simpa [hk] using hms, by simp⟩
  · rintro ⟨ms, hne', hms, rfl⟩
    obtain ⟨k, ms, rfl⟩ := List.exists_cons_of_ne_nil hne'
    exact ⟨k, ms.flatten, hms k List.mem_cons_self,
      ⟨ms, fun l hl => hms l (List.mem_cons_of_mem _ hl), rfl⟩, by simp⟩

/-- A pattern that has to reach the end. -/
theorem Reads.mem_atEnd (hp : p.Reads L) :
    after ∈ (p.andThen .atEnd).rests s ↔ (after = [] ∨ after = ['\n']) ∧ ∃ m, L m ∧ s = m ++ after := by
  rw [rests, List.mem_flatMap]
  constructor
  · rintro ⟨middle, hmiddle, hafter⟩
    by_cases hend : middle = [] ∨ middle = ['\n']
    · obtain rfl : after = middle := by simpa [rests, hend] using hafter
      exact ⟨hend, (hp s after).1 hmiddle⟩
    · simp [rests, hend] at hafter
  · rintro ⟨hend, hm⟩
    exact ⟨after, (hp s after).2 hm, by simp [rests, hend]⟩

/-! ## Texts without what is matched -/

/-- Where nothing is matched, the character stays. -/
theorem erase_cons_of_none {rest : List Char} (h : ∀ after, after ∉ p.rests (c :: rest)) :
    p.erase (c :: rest) = c :: p.erase rest := by
  have hnone : (p.rests (c :: rest)).head? = none := by simpa [List.eq_nil_iff_forall_not_mem] using h
  rw [erase, hnone]

/-- Where something is matched, what is left is one of the rests without what is matched in it. -/
theorem erase_cons_of_mem {rest : List Char} (h : after ∈ p.rests (c :: rest))
    (hlt : ∀ after ∈ p.rests (c :: rest), after.length ≤ rest.length) :
    ∃ after ∈ p.rests (c :: rest), p.erase (c :: rest) = p.erase after := by
  obtain ⟨first, more, hfirst⟩ := List.exists_cons_of_ne_nil (List.ne_nil_of_mem h)
  have hmem : first ∈ p.rests (c :: rest) := by simp [hfirst]
  refine ⟨first, hmem, ?_⟩
  rw [erase, hfirst, List.head?_cons]
  exact if_pos (hlt first hmem)

end Pattern

end UnitFoundry
