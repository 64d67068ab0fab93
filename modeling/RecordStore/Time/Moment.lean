/-!
# Moments

A moment is a local date and time of day, to the nanosecond, in the proleptic Gregorian calendar.
A leap second is the second after the last one of a minute: it has the number 59 and nanoseconds
from one thousand million on. Every moment is a date that exists: the bounds are part of the type.

Moments are ordered by `rank`, which counts up the parts in a mixed radix.
-/

namespace RecordStore.Time

/-- Is the year one of 366 days? -/
def isLeapYear (year : Int) : Bool :=
  year % 4 = 0 && (year % 100 != 0 || year % 400 = 0)

/-- The number of days in a month of a year, zero for a number that is no month. -/
def daysInMonth (year : Int) (month : Nat) : Nat :=
  match month with
  | 1 | 3 | 5 | 7 | 8 | 10 | 12 => 31
  | 4 | 6 | 9 | 11 => 30
  | 2 => if isLeapYear year then 29 else 28
  | _ => 0

/-- The first year of the calendar. -/
def firstYear : Int := -262143

/-- The last year of the calendar. -/
def lastYear : Int := 262142

/-- The nanoseconds in a second. -/
def nanosPerSecond : Nat := 1000000000

/-- A date and a time of day. -/
structure Moment where
  /-- The year, zero for the one before year 1. -/
  year : Int
  /-- The month, from 1. -/
  month : Nat
  /-- The day of the month, from 1. -/
  day : Nat
  /-- The hour, from 0. -/
  hour : Nat
  /-- The minute, from 0. -/
  minute : Nat
  /-- The second, from 0; 59 for a leap second. -/
  second : Nat
  /-- The nanoseconds since the second began; more than a second's worth in a leap second. -/
  nanos : Nat
  year_bounds : firstYear ≤ year ∧ year ≤ lastYear
  day_bounds : 1 ≤ day ∧ day ≤ daysInMonth year month
  clock_bounds : hour < 24 ∧ minute < 60 ∧ second < 60
  nanos_bounds : nanos < nanosPerSecond ∨ second = 59 ∧ nanos < 2 * nanosPerSecond
  deriving DecidableEq

namespace Moment

/-- The moment of the given parts, if there is such a date and time. The second 60 is the leap
second. -/
def ofParts? (year : Int) (month day hour minute second fraction : Nat) : Option Moment :=
  let nanos := if second = 60 then nanosPerSecond + fraction else fraction
  let second := if second = 60 then 59 else second
  if h : (firstYear ≤ year ∧ year ≤ lastYear) ∧ (1 ≤ day ∧ day ≤ daysInMonth year month) ∧
      (hour < 24 ∧ minute < 60 ∧ second < 60) ∧
      (nanos < nanosPerSecond ∨ second = 59 ∧ nanos < 2 * nanosPerSecond) then
    some ⟨year, month, day, hour, minute, second, nanos, h.1, h.2.1, h.2.2.1, h.2.2.2⟩
  else none

/-- Midnight at the start of 1970. -/
def epoch : Moment where
  year := 1970
  month := 1
  day := 1
  hour := 0
  minute := 0
  second := 0
  nanos := 0
  year_bounds := by decide
  day_bounds := by decide
  clock_bounds := by decide
  nanos_bounds := by decide

/-- The place of a moment in the order of time. -/
def rank (m : Moment) : Int :=
  (((((m.year * 13 + m.month) * 32 + m.day) * 24 + m.hour) * 60 + m.minute) * 60 + m.second) *
    (2 * nanosPerSecond : Nat) + m.nanos

/-- The order of time. -/
def compare (a b : Moment) : Ordering := Ord.compare a.rank b.rank

end Moment

end RecordStore.Time
