import UnitFoundry.Text.Decimal

/-!
# Styled text

Text for a terminal may hold escape sequences that colour it. Where there is no terminal they are
taken out.

* `paint` — a text in a colour;
* `stripStyles` — a text without escape sequences.
-/

namespace UnitFoundry.CommandLine

open Text

/-- The colours in use. -/
inductive Colour where
  | red
  | green
  | yellow
  | blue
  | cyan
  | white
  deriving Repr, DecidableEq

/-- The number of a colour. -/
def Colour.code : Colour → Nat
  | red => 31
  | green => 32
  | yellow => 33
  | blue => 34
  | cyan => 36
  | white => 37

/-- How an escape sequence begins. -/
def escapeStart : String := "\x1b["

/-- A text in a colour. -/
def paint (colour : Colour) (bold : Bool) (s : String) : String :=
  escapeStart ++ showNat colour.code ++ "m" ++ (if bold then escapeStart ++ "1m" else "") ++ s ++
    escapeStart ++ "0m"

/-- How many characters follow the first one of an escape sequence, if one begins here: a square
bracket, parameters, further characters up to the slash, and a last character. -/
def sequenceRest? : List Char → Option Nat
  | '\x1b' :: '[' :: rest =>
    let parameters := rest.takeWhile fun c => 0x30 ≤ c.toNat && c.toNat ≤ 0x3F
    let between := (rest.drop parameters.length).takeWhile fun c => 0x20 ≤ c.toNat && c.toNat ≤ 0x2F
    let count := parameters.length + between.length
    match rest.drop count with
    | last :: _ => if 0x40 ≤ last.toNat && last.toNat ≤ 0x7E then some (count + 2) else none
    | [] => none
  | _ => none

/-- Characters without escape sequences. -/
def withoutSequences : List Char → List Char
  | [] => []
  | c :: rest =>
    match sequenceRest? (c :: rest) with
    | some count => withoutSequences (rest.drop count)
    | none => c :: withoutSequences rest
termination_by s => s.length
decreasing_by all_goals simp; try omega

/-- A text without escape sequences. -/
def stripStyles (s : String) : String := String.ofList (withoutSequences s.toList)

/-- A text filled with blanks to a width that counts every character, seen or not. -/
def fill (width : Nat) (s : String) : String :=
  s ++ String.ofList (List.replicate (width - s.length) ' ')

end UnitFoundry.CommandLine
