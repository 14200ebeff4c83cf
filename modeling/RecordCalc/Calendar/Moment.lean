/-
  Moments: whole seconds of universal time, in years before and after those of dates. The calendar
  repeats every 400 years, so a moment has a place in the first 400 years and the number of cycles
  since.
-/
import RecordCalc.Calendar.Date

namespace RecordCalc.Calendar

/-- Days in 400 years, a whole number of weeks. -/
def cycleDays : Nat := 146097

/-- Seconds in a day. -/
def daySeconds : Nat := 86400

/-- A moment, as the seconds since January 1, 1970. -/
structure Moment where
  seconds : Int
deriving DecidableEq, Repr

namespace Moment

/-- The days since January 1 of year 1. -/
def days (m : Moment) : Int := Int.fdiv m.seconds daySeconds + 719162

/-- The cycles of 400 years since year 1. -/
def cycles (m : Moment) : Int := Int.fdiv m.days cycleDays

/-- The number of the day in its cycle, from 1 on. -/
def ordinal (m : Moment) : Nat := (Int.fmod m.days cycleDays).toNat + 1

/-- The number of the year in its cycle, from 1 to 400. -/
def yearInCycle (m : Moment) : Nat := Date.yearOfOrdinal m.ordinal

/-- The year; the one before year 1 is year 0. -/
def year (m : Moment) : Int := 400 * m.cycles + m.yearInCycle

/-- The number of the day in its year, from 1 on. -/
def yearDay (m : Moment) : Nat := m.ordinal - daysBeforeYear m.yearInCycle

/-- The month and the day of the month. -/
def monthAndDay (m : Moment) : Nat × Nat :=
  Date.monthAndDay 1 (monthLengths (isLeapYear m.yearInCycle)) m.yearDay

/-- The month. -/
def month (m : Moment) : Nat := m.monthAndDay.1

/-- The day of the month. -/
def day (m : Moment) : Nat := m.monthAndDay.2

/-- The day of the week, Monday being 0. -/
def weekday (m : Moment) : Nat := (m.ordinal + 6) % 7

/-- The seconds since midnight. -/
def daySecond (m : Moment) : Nat := (Int.fmod m.seconds daySeconds).toNat

/-- The hour of the day. -/
def hour (m : Moment) : Nat := m.daySecond / 3600

/-- The hour on a face of twelve hours. -/
def faceHour (m : Moment) : Nat := (m.hour + 11) % 12 + 1

/-- The minute of the hour. -/
def minute (m : Moment) : Nat := m.daySecond / 60 % 60

/-- The second of the minute. -/
def second (m : Moment) : Nat := m.daySecond % 60

/-! ## Weeks -/

/-- The number of the week in its year, whose weeks start on the day that is `dayOfWeek` days ago;
days before the first of them are in week 0. -/
def weekFrom (m : Moment) (dayOfWeek : Nat) : Nat := (m.yearDay + 6 - dayOfWeek) / 7

/-- The number of the week that holds the Thursday nearest to the moment, in the year of that
Thursday, and the years from the moment's own to that one. -/
def isoWeek (m : Moment) : Nat × Int :=
  let longYear := fun year => Date.hasLongWeekYear ((year + 399) % 400 + 1)
  let week := (m.yearDay + 9 - m.weekday) / 7
  if week = 0 then (if longYear (m.yearInCycle + 399) then 53 else 52, -1)
  else if week = 53 && !longYear m.yearInCycle then (1, 1)
  else (week, 0)

end Moment

end RecordCalc.Calendar
