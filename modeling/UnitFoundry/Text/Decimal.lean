/-!
# Decimal digits of every script

A character is a decimal digit when Unicode gives it the general category Nd. Such digits come in
runs of ten consecutive code points, from zero to nine, so the table lists the zeros only.

* `digitValue?` — the value of a decimal digit, of any script;
* `isDecimal` — whether a character is one;
* `readDecimal?` — the number a non-empty run of digits denotes.
-/

namespace UnitFoundry.Text

/-- The code points of the zeros that start the runs of decimal digits, in increasing order. -/
def decimalZeros : List Nat :=
  [
  0x30, 0x660, 0x6F0, 0x7C0, 0x966, 0x9E6, 0xA66, 0xAE6, 0xB66, 0xBE6, 0xC66, 0xCE6, 0xD66,
   0xDE6, 0xE50, 0xED0, 0xF20, 0x1040, 0x1090, 0x17E0, 0x1810, 0x1946, 0x19D0, 0x1A80, 0x1A90,
   0x1B50, 0x1BB0, 0x1C40, 0x1C50, 0xA620, 0xA8D0, 0xA900, 0xA9D0, 0xA9F0, 0xAA50, 0xABF0,
   0xFF10, 0x104A0, 0x10D30, 0x11066, 0x110F0, 0x11136, 0x111D0, 0x112F0, 0x11450, 0x114D0,
   0x11650, 0x116C0, 0x11730, 0x118E0, 0x11950, 0x11C50, 0x11D50, 0x11DA0, 0x16A60, 0x16AC0,
   0x16B50, 0x1D7CE, 0x1D7D8, 0x1D7E2, 0x1D7EC, 0x1D7F6, 0x1E140, 0x1E2F0, 0x1E950, 0x1FBF0]

/-- The value of a decimal digit: its distance from the zero of its run. -/
def digitValue? (c : Char) : Option Nat :=
  (decimalZeros.find? fun start => start ≤ c.toNat && c.toNat < start + 10).map (c.toNat - ·)

/-- Whether a character is a decimal digit of some script. -/
def isDecimal (c : Char) : Bool := (digitValue? c).isSome

/-- The number that digits denote when they continue the digits already read. -/
def readDigits : Nat → List Char → Option Nat
  | value, [] => some value
  | value, c :: rest =>
    match digitValue? c with
    | some digit => readDigits (10 * value + digit) rest
    | none => none

/-- The number that a non-empty run of decimal digits denotes; digits of several scripts may mix. -/
def readDecimal? : List Char → Option Nat
  | [] => none
  | digits => readDigits 0 digits

/-- The decimal digits of a number, without leading zeros. -/
def showNat (n : Nat) : String := toString n

/-- A whole number in decimal, with a minus sign if it is negative. -/
def showInt : Int → String
  | .ofNat n => showNat n
  | .negSucc n => "-" ++ showNat (n + 1)

end UnitFoundry.Text
