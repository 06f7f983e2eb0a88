/-!
# Points in time

A timestamp is a number of seconds since the start of 1970 and a part of a second, in UTC.  A part of
a second of one second or more stands for a leap second, which follows the last second of a minute.
Dates are those of the Gregorian calendar, continued in both directions.
-/
namespace BenchSuite

/-- A point in time. -/
structure Timestamp where
  seconds : Int
  nanos : Nat
deriving DecidableEq, Repr

/-- A date of the calendar. -/
structure Date where
  year : Int
  month : Nat
  day : Nat
deriving DecidableEq, Repr

namespace Date

def isLeapYear (y : Int) : Bool := (y % 4 == 0 && y % 100 != 0) || y % 400 == 0

def monthLength (y : Int) (m : Nat) : Nat :=
  if m = 2 then if isLeapYear y then 29 else 28
  else if m = 4 ∨ m = 6 ∨ m = 9 ∨ m = 11 then 30
  else 31

/-- Whether there is such a day. -/
def Valid (d : Date) : Prop := 1 ≤ d.month ∧ d.month ≤ 12 ∧ 1 ≤ d.day ∧ d.day ≤ monthLength d.year d.month

instance (d : Date) : Decidable d.Valid := by unfold Valid; infer_instance

/-- **Days from the start of 1970 to a date.**  Years are counted from March, so that the leap day comes
last and the days before a month follow one rule. -/
def toDays (d : Date) : Int :=
  let y := if d.month ≤ 2 then d.year - 1 else d.year
  let m : Int := if d.month ≤ 2 then d.month + 9 else d.month - 3
  365 * y + y / 4 - y / 100 + y / 400 + (153 * m + 2) / 5 + d.day - 1 - 719468

/-- **The date of a day** counted from the start of 1970.  Days are cut into spans of 400, 100, 4 and
1 years from March, where the last day of a span belongs to it. -/
def ofDays (days : Int) : Date :=
  let z := days + 719468
  let era := z / 146097
  let dayOfEra := z % 146097
  let yearOfEra := (dayOfEra - dayOfEra / 1460 + dayOfEra / 36524 - dayOfEra / 146096) / 365
  let dayOfYear := dayOfEra - (365 * yearOfEra + yearOfEra / 4 - yearOfEra / 100)
  let m := (5 * dayOfYear + 2) / 153
  let day := (dayOfYear - (153 * m + 2) / 5 + 1).toNat
  let month := (if m < 10 then m + 3 else m - 9).toNat
  let year := yearOfEra + era * 400
  ⟨if month ≤ 2 then year + 1 else year, month, day⟩

end Date

/-- A point in time as a date and a time of day. -/
structure Clocktime where
  date : Date
  hour : Nat
  minute : Nat
  /-- Up to 60, in a leap second. -/
  second : Nat
  nanos : Nat
deriving DecidableEq, Repr

namespace Timestamp

/-- **The date and time of day of a timestamp.** -/
def clocktime (t : Timestamp) : Clocktime :=
  let ofDay := (t.seconds % 86400).toNat
  ⟨.ofDays (t.seconds / 86400), ofDay / 3600, ofDay / 60 % 60, ofDay % 60 + t.nanos / 1000000000,
    t.nanos % 1000000000⟩

/-- Whole milliseconds since the start of 1970; the rest is cut off. -/
def milliseconds (t : Timestamp) : Int := t.seconds * 1000 + (t.nanos / 1000000 : Nat)

end Timestamp
end BenchSuite
