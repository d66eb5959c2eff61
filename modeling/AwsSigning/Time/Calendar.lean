/-
AwsSigning/Time/Calendar.lean

Days, months and years, and the three ways a point in time is written.

Days are counted from 1 March of the year 0, which puts the leap day at the
end of a year: then the length of the months before a month is a linear
formula, and 400 years are 146097 days whatever year they start in.
-/
import AwsSigning.Time.Instant

namespace AwsSigning

/-! ### Days and dates -/

/-- A date of the Gregorian calendar, extended to all years. -/
structure Date where
  /-- The year; year 0 comes before year 1. -/
  year : Int
  /-- The month, from 1. -/
  month : Nat
  /-- The day of the month, from 1. -/
  day : Nat
deriving DecidableEq, Repr

namespace Date

/-- A year with a 29 February. -/
def isLeap (year : Int) : Bool := year % 4 = 0 && (year % 100 ≠ 0 || year % 400 = 0)

/-- How many days a month has. -/
def daysInMonth (year : Int) (month : Nat) : Nat :=
  if month = 2 then (if isLeap year then 29 else 28)
  else if month = 4 || month = 6 || month = 9 || month = 11 then 30
  else 31

/-- Days from 1 January 1970 to a date. -/
def toDays (d : Date) : Int :=
  let year := if d.month ≤ 2 then d.year - 1 else d.year
  let era := year.fdiv 400
  let yearOfEra := year.fmod 400
  let monthFromMarch : Int := if d.month ≤ 2 then d.month + 9 else d.month - 3
  let dayOfYear := (153 * monthFromMarch + 2) / 5 + d.day - 1
  let dayOfEra := yearOfEra * 365 + yearOfEra / 4 - yearOfEra / 100 + dayOfYear
  era * 146097 + dayOfEra - 719468

/-- The date a number of days after 1 January 1970. -/
def ofDays (days : Int) : Date :=
  let shifted := days + 719468
  let era := shifted.fdiv 146097
  let dayOfEra := shifted.fmod 146097
  let yearOfEra := (dayOfEra - dayOfEra / 1460 + dayOfEra / 36524 - dayOfEra / 146096) / 365
  let dayOfYear := dayOfEra - (365 * yearOfEra + yearOfEra / 4 - yearOfEra / 100)
  let monthFromMarch := (5 * dayOfYear + 2) / 153
  let day := dayOfYear - (153 * monthFromMarch + 2) / 5 + 1
  let month := if monthFromMarch < 10 then monthFromMarch + 3 else monthFromMarch - 9
  let year := yearOfEra + era * 400 + (if month ≤ 2 then 1 else 0)
  ⟨year, month.toNat, day.toNat⟩

end Date

/-! ### Writing -/

/-- A number with at least `width` digits. -/
def padded (width n : Nat) : String :=
  let digits := toString n
  String.ofList (List.replicate (width - digits.length) '0') ++ digits

/-- A year has four digits; outside of 0 to 9999 it has a sign as well. -/
def yearText (year : Int) : String :=
  if 0 ≤ year ∧ year ≤ 9999 then padded 4 year.toNat
  else if year < 0 then "-" ++ padded 4 year.natAbs
  else "+" ++ padded 4 year.natAbs

namespace Instant

/-- The date of a point in time. -/
def date (t : Instant) : Date := Date.ofDays (t.second.fdiv 86400)

/-- Seconds since midnight; a leap second counts as second 59. -/
def secondOfDay (t : Instant) : Nat := (t.second.fmod 86400).toNat

/-- Hour of the day. -/
def hour (t : Instant) : Nat := t.secondOfDay / 3600

/-- Minute of the hour. -/
def minute (t : Instant) : Nat := t.secondOfDay / 60 % 60

/-- Second of the minute, 60 in a leap second. -/
def secondOfMinute (t : Instant) : Nat := t.secondOfDay % 60 + t.nano / 1000000000

/-- The date as `20220301`. -/
def dateText (t : Instant) : String :=
  yearText t.date.year ++ padded 2 t.date.month ++ padded 2 t.date.day

/-- The point in time as `20220313T072004Z`. -/
def stampText (t : Instant) : String :=
  t.dateText ++ "T" ++ padded 2 t.hour ++ padded 2 t.minute ++ padded 2 t.secondOfMinute ++ "Z"

/-- The digits of a second after its point: none, three, six or nine. -/
def fractionText (nano : Nat) : String :=
  if nano = 0 then ""
  else if nano % 1000000 = 0 then "." ++ padded 3 (nano / 1000000)
  else if nano % 1000 = 0 then "." ++ padded 6 (nano / 1000)
  else "." ++ padded 9 nano

/-- The point in time as `2024-01-01T00:00:00.500Z`. -/
def describe (t : Instant) : String :=
  yearText t.date.year ++ "-" ++ padded 2 t.date.month ++ "-" ++ padded 2 t.date.day ++ "T"
    ++ padded 2 t.hour ++ ":" ++ padded 2 t.minute ++ ":" ++ padded 2 t.secondOfMinute
    ++ fractionText (t.nano % 1000000000) ++ "Z"

end Instant

end AwsSigning
