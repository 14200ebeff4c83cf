/-
  How dates and datetimes are written: the ISO 8601 form, with microseconds and offset only where
  there are some, and the form that names the parts, in which values are shown.
-/
import RecordCalc.Calendar.DateTime
import RecordCalc.Number.Layout

namespace RecordCalc.Calendar

open Binary64 (padded)

namespace Date

/-- The ISO form of a date. -/
def iso (d : Date) : String :=
  padded d.year 4 ++ "-" ++ padded d.month 2 ++ "-" ++ padded d.day 2

/-- The date with its parts named. -/
def shown (d : Date) : String :=
  "datetime.date(" ++ toString d.year ++ ", " ++ toString d.month ++ ", " ++ toString d.day ++ ")"

end Date

namespace Clock

/-- The ISO form of a time of the day; microseconds are written where there are some. -/
def iso (c : Clock) : String :=
  padded c.hour 2 ++ ":" ++ padded c.minute 2 ++ ":" ++ padded c.second 2 ++
    if c.micro = 0 then "" else "." ++ padded c.micro 6

end Clock

namespace Offset

/-- The ISO form of an offset: a sign, hours and minutes, and what else there is. -/
def iso (o : Offset) : String :=
  let n := o.micros.natAbs
  let minutes := n / (60 * secondMicros)
  let rest := n % (60 * secondMicros)
  (if o.micros < 0 then "-" else "+") ++ padded (minutes / 60) 2 ++ ":" ++
    padded (minutes % 60) 2 ++
    if rest = 0 then ""
    else ":" ++ padded (rest / secondMicros) 2 ++
      if rest % secondMicros = 0 then "" else "." ++ padded (rest % secondMicros) 6

/-- The offset with its parts named: days, and the seconds and microseconds of a day. -/
def shown (o : Offset) : String :=
  if o.micros = 0 then "datetime.timezone.utc"
  else
    let inDay := (Int.fmod o.micros dayMicros).toNat
    let parts :=
      (if o.micros < 0 then ["days=-1"] else []) ++
      (if inDay / secondMicros = 0 then [] else ["seconds=" ++ toString (inDay / secondMicros)]) ++
      (if inDay % secondMicros = 0 then []
        else ["microseconds=" ++ toString (inDay % secondMicros)])
    "datetime.timezone(datetime.timedelta(" ++ ", ".intercalate parts ++ "))"

end Offset

namespace DateTime

/-- The ISO form with a text between date and time. -/
def isoWith (separator : String) (t : DateTime) : String :=
  t.date.iso ++ separator ++ t.clock.iso ++
    match t.offset with
    | none => ""
    | some o => o.iso

/-- The ISO form of a datetime. -/
def iso (t : DateTime) : String := t.isoWith "T"

/-- The datetime with its parts named; seconds and microseconds only where there are some. -/
def shown (t : DateTime) : String :=
  let numbers := [t.date.year, t.date.month, t.date.day, t.clock.hour, t.clock.minute] ++
    (if t.clock.second = 0 && t.clock.micro = 0 then []
      else if t.clock.micro = 0 then [t.clock.second] else [t.clock.second, t.clock.micro])
  let parts := numbers.map toString ++
    match t.offset with
    | none => []
    | some o => ["tzinfo=" ++ o.shown]
  "datetime.datetime(" ++ ", ".intercalate parts ++ ")"

end DateTime

end RecordCalc.Calendar
