import UnitFoundry.Yaml.Scalar

/-!
# Dates and moments

A date must be one of the calendar, and a time one of the clock. A zone is an offset of less than a
day.

* `Moment` — a date, or a date and a time of day;
* `Moment.ofText` — the moment that is written;
* `Moment.toDatum` — the moment as a datum, of which only the text matters.
-/

namespace UnitFoundry.Yaml

open Text

/-- A span of time in seconds. -/
structure Span where
  seconds : Int
  deriving Repr, DecidableEq

namespace Span

/-- The text of a span: days, which may be negative, and the seconds of a further day. -/
def toText (span : Span) : String :=
  let days := span.seconds.fdiv 86400
  let seconds := span.seconds.fmod 86400
  let parts := (if days = 0 then [] else ["days=" ++ showInt days]) ++
    (if seconds = 0 then [] else ["seconds=" ++ showInt seconds])
  "datetime.timedelta(" ++ (if parts.isEmpty then "0" else ", ".intercalate parts) ++ ")"

/-- The text of the zone with an offset. -/
def zoneText (span : Span) : String :=
  if span.seconds = 0 then "datetime.timezone.utc" else "datetime.timezone(" ++ span.toText ++ ")"

end Span

/-- A time of day. -/
structure Clock where
  hour : Nat
  minute : Nat
  second : Nat
  microsecond : Nat
  zone : Option Span
  deriving Repr, DecidableEq

/-- A date, or a date and a time of day. -/
structure Moment where
  year : Nat
  month : Nat
  day : Nat
  clock : Option Clock
  deriving Repr, DecidableEq

namespace Moment

/-- Whether a year has a day more. -/
def isLeap (year : Nat) : Bool := year % 4 = 0 && (year % 100 ≠ 0 || year % 400 = 0)

/-- The number of days of a month. -/
def daysIn (year month : Nat) : Nat :=
  if month = 2 then if isLeap year then 29 else 28
  else if [4, 6, 9, 11].contains month then 30
  else 31

/-- What is wrong with a moment; the first fault counts. -/
def fault? (m : Moment) : Option String :=
  let time := m.clock
  let above (part : Clock → Nat) (greatest : Nat) : Bool := time.any fun t => greatest < part t
  if m.year = 0 then some ("year " ++ showNat m.year ++ " is out of range")
  else if m.month = 0 || 12 < m.month then some "month must be in 1..12"
  else if m.day = 0 || daysIn m.year m.month < m.day then some "day is out of range for month"
  else if above Clock.hour 23 then some "hour must be in 0..23"
  else if above Clock.minute 59 then some "minute must be in 0..59"
  else if above Clock.second 59 then some "second must be in 0..59"
  else none

/-- The number that digits denote. -/
def number (digits : List Char) : Nat := (digitsValue? 10 digits).getD 0

/-- The offset of a zone as it is written. -/
def zoneOf (zone : Option Bool × List Char × List Char) : Except Raised Span :=
  let (negative, hours, minutes) := zone
  let seconds : Int := (number hours * 3600 + number minutes * 60 : Nat)
  let span : Span := ⟨if negative = some true then -seconds else seconds⟩
  if seconds < 86400 then .ok span
  else
    .error (faultyValue ("offset must be a timedelta strictly between -timedelta(hours=24) and " ++
      "timedelta(hours=24), not " ++ span.toText ++ "."))

/-- The moment that is written. -/
def ofText (text : MomentText) : Except Raised Moment := do
  let clock ← match text.time with
    | none => pure none
    | some (hours, minutes, seconds, fraction) => do
      let zone ← text.zone.mapM zoneOf
      let digits := fraction.take 6 ++ List.replicate (6 - fraction.length) '0'
      pure (some { hour := number hours, minute := number minutes, second := number seconds
                   microsecond := number digits, zone })
  let moment : Moment :=
    { year := number text.year, month := number text.month, day := number text.day, clock }
  match moment.fault? with
  | some message => throw (faultyValue message)
  | none => pure moment

/-- The moment as a datum. Seconds and their fraction are not shown if they are zero. -/
def toDatum (m : Moment) : Datum :=
  let date := [m.year, m.month, m.day]
  match m.clock with
  | none => .other "date" "datetime.date" ("datetime.date(" ++ ", ".intercalate (date.map showNat) ++ ")")
  | some t =>
    let fine := if t.microsecond ≠ 0 then [t.second, t.microsecond]
      else if t.second ≠ 0 then [t.second] else []
    let parts := (date ++ [t.hour, t.minute] ++ fine).map showNat ++
      (t.zone.map fun zone => "tzinfo=" ++ zone.zoneText).toList
    .other "datetime" "datetime.datetime" ("datetime.datetime(" ++ ", ".intercalate parts ++ ")")

end Moment

end UnitFoundry.Yaml
