/-
  Dates of the Gregorian calendar, years 1 to 9999. A date corresponds to its ordinal, the number of
  days since the day before January 1 of year 1.
-/
namespace RecordCalc.Calendar

/-- Whether a year has a February 29. -/
def isLeapYear (year : Nat) : Bool := year % 4 == 0 && (year % 100 != 0 || year % 400 == 0)

/-- The lengths of the twelve months. -/
def monthLengths (leap : Bool) : List Nat :=
  [31, if leap then 29 else 28, 31, 30, 31, 30, 31, 31, 30, 31, 30, 31]

/-- The length of a month, zero for a month that does not exist. -/
def daysInMonth (year month : Nat) : Nat :=
  if month = 0 then 0 else (monthLengths (isLeapYear year)).getD (month - 1) 0

/-- The days before January 1 of a year. -/
def daysBeforeYear (year : Nat) : Nat :=
  365 * (year - 1) + (year - 1) / 4 - (year - 1) / 100 + (year - 1) / 400

/-- The days of a year before a month. -/
def daysBeforeMonth (year month : Nat) : Nat :=
  ((monthLengths (isLeapYear year)).take (month - 1)).foldl (· + ·) 0

/-- Whether year, month and day name a date. -/
def ValidDate (year month day : Nat) : Prop :=
  1 ≤ year ∧ year ≤ 9999 ∧ 1 ≤ month ∧ month ≤ 12 ∧ 1 ≤ day ∧ day ≤ daysInMonth year month

instance (year month day : Nat) : Decidable (ValidDate year month day) := by
  unfold ValidDate; infer_instance

/-- A date. -/
structure Date where
  year : Nat
  month : Nat
  day : Nat
  valid : ValidDate year month day
deriving DecidableEq

namespace Date

/-- The date of a year, month and day. -/
def ofYmd? (year month day : Nat) : Option Date :=
  if h : ValidDate year month day then some ⟨year, month, day, h⟩ else none

/-- The number of the day, January 1 of year 1 being day 1. -/
def ordinal (d : Date) : Nat := daysBeforeYear d.year + daysBeforeMonth d.year d.month + d.day

/-- The last ordinal: December 31 of year 9999. -/
def lastOrdinal : Nat := 3652059

/-- Month and day of the `n`-th day of a year, `n` from 1 on, `month` being the first month of the
list. -/
def monthAndDay (month : Nat) : List Nat → Nat → Nat × Nat
  | [], n => (month, n)
  | length :: rest, n =>
    if n ≤ length then (month, n) else monthAndDay (month + 1) rest (n - length)

/-- The year that holds an ordinal: the mean length of a year gives it up to one. -/
def yearOfOrdinal (n : Nat) : Nat :=
  let guess := 400 * (n - 1) / 146097 + 1
  if n ≤ daysBeforeYear guess then guess - 1
  else if daysBeforeYear (guess + 1) < n then guess + 1
  else guess

/-- The date of an ordinal. -/
def ofOrdinal? (n : Int) : Option Date :=
  if 1 ≤ n && n ≤ lastOrdinal then
    let n := n.toNat
    let year := yearOfOrdinal n
    let (month, day) := monthAndDay 1 (monthLengths (isLeapYear year)) (n - daysBeforeYear year)
    ofYmd? year month day
  else none

/-- The day of the week, Monday being 0. -/
def weekday (d : Date) : Nat := (d.ordinal + 6) % 7

/-- The date some days later, none outside the calendar. -/
def addDays (d : Date) (days : Int) : Option Date := ofOrdinal? (d.ordinal + days)

/-- The ordinal of the Monday of the first week of a year: the week that holds its first
Thursday. -/
def firstMonday (year : Nat) : Int :=
  let first := daysBeforeYear year + 1
  let weekday := (first + 6) % 7
  let monday : Int := (first : Int) - weekday
  if 3 < weekday then monday + 7 else monday

/-- Whether a year has 53 weeks: it starts on a Thursday, or on a Wednesday and has 366 days. -/
def hasLongWeekYear (year : Nat) : Bool :=
  let weekday := (daysBeforeYear year + 7) % 7
  weekday == 3 || (weekday == 2 && isLeapYear year)

/-- The date of a year, a week and a day of the week, Monday being 1. -/
def ofWeek? (year week day : Nat) : Option Date :=
  if 1 ≤ year && year ≤ 9999 && 1 ≤ week && (week ≤ 52 || (week == 53 && hasLongWeekYear year)) &&
      1 ≤ day && day ≤ 7 then
    ofOrdinal? (firstMonday year + ((week - 1) * 7 + (day - 1) : Nat))
  else none

/--
The date some months later, on the same day or the last day of the month that is shorter; none
outside the calendar.
-/
def addMonths (d : Date) (months : Int) : Option Date :=
  let total : Int := (d.month : Int) - 1 + months
  let year : Int := d.year + Int.fdiv total 12
  let month : Nat := (Int.fmod total 12).toNat + 1
  if 1 ≤ year && year ≤ 9999 then
    ofYmd? year.toNat month (min d.day (daysInMonth year.toNat month))
  else none

end Date

end RecordCalc.Calendar
