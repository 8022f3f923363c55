import UnitFoundry.Power
import UnitFoundry.Text.Decimal

/-!
# Floating-point numbers and their shortest text

A number in the binary64 format is kept as its 64 bits. Its exact value is a rational number, and
its text has the fewest digits that read back as the number.

* `toRat?` — the exact value; none for infinities and what is no number;
* `ofFraction`, `ofDecimal` — the number nearest to a fraction or a decimal;
* `add`, `multiply` — sums and products of finite numbers, rounded once;
* `shortest` — the fewest digits and the place of the decimal point;
* `toText` — positional from `0.0001` up to sixteen places before the point, else with an exponent.
-/

namespace UnitFoundry

/-- A number in the binary64 format. -/
structure Binary64 where
  bits : UInt64
  deriving Repr, DecidableEq

namespace Binary64

open UnitFoundry.Text

/-- Whether the sign bit is set. -/
def isNegative (x : Binary64) : Bool := x.bits >>> 63 != 0

/-- The exponent field. -/
def exponentField (x : Binary64) : Nat := ((x.bits >>> 52) &&& 0x7FF).toNat

/-- The fraction field. -/
def fractionField (x : Binary64) : Nat := (x.bits &&& 0xFFFFFFFFFFFFF).toNat

/-- Whether the number is neither infinite nor undefined. -/
def isFinite (x : Binary64) : Bool := x.exponentField != 0x7FF

/-- The whole number of which a finite number is a multiple by a power of two. -/
def significand (x : Binary64) : Nat :=
  if x.exponentField = 0 then x.fractionField else x.fractionField + twoTo 52

/-- The exponent of that power of two. -/
def exponent (x : Binary64) : Int := (max x.exponentField 1 : Nat) - 1075

/-- The exact value of a finite number. -/
def toRat? (x : Binary64) : Option Rat :=
  if x.isFinite then
    let magnitude := mkRat (x.significand * twoTo x.exponent.toNat) (twoTo (-x.exponent).toNat)
    some (if x.isNegative then -magnitude else magnitude)
  else none

/-- The nearest number to `n / d · 2 ^ -scale`, as a whole number; a tie goes to the even one. -/
def roundScaled (n d : Nat) (scale : Int) : Nat :=
  let numerator := n * twoTo (-scale).toNat
  let denominator := d * twoTo scale.toNat
  let quotient := numerator / denominator
  let twice := 2 * (numerator % denominator)
  if denominator < twice || (twice = denominator && quotient % 2 = 1) then quotient + 1 else quotient

/-- The number nearest to a fraction, with a sign; a tie goes to the one with an even significand. -/
def ofFraction (negative : Bool) (n d : Nat) : Binary64 :=
  let sign : Nat := if negative then twoTo 63 else 0
  if n = 0 then ⟨UInt64.ofNat sign⟩
  else
    let guess : Int := (n.log2 : Int) - d.log2 - 52
    let scale := max (-1074) (if roundScaled n d guess < twoTo 52 then guess - 1 else guess)
    let rounded := roundScaled n d scale
    let (m, scale) := if rounded = twoTo 53 then (twoTo 52, scale + 1) else (rounded, scale)
    let field := if m < twoTo 52 then 0 else (scale + 1075).toNat
    if 2047 ≤ field then ⟨UInt64.ofNat (sign + 2047 * twoTo 52)⟩
    else ⟨UInt64.ofNat (sign + field * twoTo 52 + m % twoTo 52)⟩

/-- Positive or negative infinity. -/
def infinity (negative : Bool) : Binary64 :=
  ⟨UInt64.ofNat ((if negative then twoTo 63 else 0) + 2047 * twoTo 52)⟩

/-- The number nearest to decimal digits times a power of ten, with a sign. Far outside the range of
the format the power itself is not needed: the number is infinite or zero. -/
def ofDecimal (negative : Bool) (digits : Nat) (power : Int) : Binary64 :=
  if digits = 0 then ofFraction negative 0 1
  else if 400 < power then infinity negative
  else if power + (digits.log2 : Int) < -1200 then ofFraction negative 0 1
  else ofFraction negative (digits * tenTo power.toNat) (tenTo (-power).toNat)

/-- The number nearest to a rational number; zero has a sign of its own. -/
def ofRat (negativeZero : Bool) (q : Rat) : Binary64 :=
  if q.num = 0 then ofFraction negativeZero 0 1 else ofFraction (q.num < 0) q.num.natAbs q.den

/-- The sum of two numbers, which is exact before it is rounded. What is not finite swallows the
other. -/
def add (x y : Binary64) : Binary64 :=
  match x.toRat?, y.toRat? with
  | some a, some b => ofRat (x.isNegative && y.isNegative) (a + b)
  | some _, none => y
  | none, _ => x

/-- The product of two finite numbers, which is exact before it is rounded. -/
def multiply (x y : Binary64) : Binary64 :=
  match x.toRat?, y.toRat? with
  | some a, some b => ofRat (x.isNegative != y.isNegative) (a * b)
  | some _, none => y
  | none, _ => x

/-- A number with the other sign. -/
def negate (x : Binary64) : Binary64 := ⟨x.bits ^^^ UInt64.ofNat (twoTo 63)⟩

/-- What is no number. -/
def undefined : Binary64 := ⟨UInt64.ofNat (2047 * twoTo 52 + twoTo 51)⟩

/-- A positive fraction and the open or closed interval of fractions that round to it, all as
numerators over one denominator. -/
structure Interval where
  low : Nat
  value : Nat
  high : Nat
  denominator : Nat
  closed : Bool

/-- The interval of a finite number that is not zero. Below a power of two the gap is half as wide. -/
def interval (x : Binary64) : Interval :=
  let m := x.significand
  let below := if x.fractionField = 0 && x.exponentField > 1 then 1 else 2
  let shift := x.exponent - 2
  let scale := twoTo shift.toNat
  { low := (4 * m - below) * scale
    value := 4 * m * scale
    high := (4 * m + 2) * scale
    denominator := twoTo (-shift).toNat
    closed := m % 2 = 0 }

/-- Whether `candidate · 10 ^ place` lies in an interval. -/
def Interval.contains (i : Interval) (candidate : Nat) (place : Int) : Bool :=
  let c := candidate * tenTo place.toNat * i.denominator
  let unit := tenTo (-place).toNat
  if i.closed then i.low * unit ≤ c && c ≤ i.high * unit
  else i.low * unit < c && c < i.high * unit

/-- The smallest number of places before the decimal point of a positive fraction, searched upwards
from `place` for at most `fuel` steps. -/
def pointPlace (i : Interval) (place : Int) : Nat → Int
  | 0 => place
  | fuel + 1 =>
    if i.value * tenTo (-place).toNat < tenTo place.toNat * i.denominator then place
    else pointPlace i (place + 1) fuel

/-- The decimal with `count` digits that reads back, if there is one; of two, the nearer. -/
def digitsOf? (i : Interval) (point : Int) (count : Nat) : Option Nat :=
  let place := point - count
  let numerator := i.value * tenTo (-place).toNat
  let denominator := i.denominator * tenTo place.toNat
  let lower := numerator / denominator
  let remainder := numerator % denominator
  match i.contains lower place, i.contains (lower + 1) place with
  | true, false => some lower
  | false, true => some (lower + 1)
  | true, true =>
    if 2 * remainder < denominator || (2 * remainder = denominator && lower % 2 = 0) then some lower
    else some (lower + 1)
  | false, false => none

/-- The fewest digits that read back as a finite number other than zero, and the number of places
before the decimal point. -/
def shortest (x : Binary64) : List Char × Int :=
  let i := x.interval
  let point := pointPlace i (-325) 700
  let found := (List.range 17).findSome? fun count =>
    (digitsOf? i point (count + 1)).map fun n => (n, point - (count + 1))
  match found with
  | some (n, place) =>
    let digits := Nat.toDigits 10 n
    ((digits.reverse.dropWhile (· = '0')).reverse, place + digits.length)
  | none => (['0'], 1)

/-- Digits with the decimal point after `point` of them, or with an exponent if that is far away. -/
def layout (digits : List Char) (point : Int) : List Char :=
  if -4 < point && point ≤ 16 then
    if point ≤ 0 then '0' :: '.' :: List.replicate (-point).toNat '0' ++ digits
    else
      let whole := digits.take point.toNat ++ List.replicate (point.toNat - digits.length) '0'
      let fraction := digits.drop point.toNat
      whole ++ '.' :: (if fraction.isEmpty then ['0'] else fraction)
  else
    let power := point - 1
    let shown := Nat.toDigits 10 power.natAbs
    digits.take 1 ++ (if digits.length > 1 then '.' :: digits.drop 1 else []) ++
      'e' :: (if power < 0 then '-' else '+') :: List.replicate (2 - shown.length) '0' ++ shown

/-- The text of a number. -/
def toText (x : Binary64) : String :=
  let sign := if x.isNegative then "-" else ""
  if !x.isFinite then if x.fractionField = 0 then sign ++ "inf" else "nan"
  else if x.significand = 0 then sign ++ "0.0"
  else
    let (digits, point) := x.shortest
    sign ++ String.ofList (layout digits point)

end Binary64

end UnitFoundry
