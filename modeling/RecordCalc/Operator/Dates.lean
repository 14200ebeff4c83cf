/-
  Functions on dates: parts, differences in whole units, and shifts by units. Months and years move
  by the calendar, the other units by a fixed length.
-/
import RecordCalc.Operator.Arithmetic

namespace RecordCalc.Dates

open Calendar (Date DateTime dayMicros secondMicros)

/-- A part of a date as a value; the parts of a time are zero for a date alone. -/
def part (ofDate : Date → Nat) (ofTime : DateTime → Nat) (v : Value) : Except Fault Value :=
  .ok
    (match v.toDate? with
    | none => .null
    | some (.date d) => .int (ofDate d)
    | some (.datetime t) => .int (ofTime t))

/-- The year. -/
def year : Value → Except Fault Value := part (·.year) (·.date.year)

/-- The month. -/
def month : Value → Except Fault Value := part (·.month) (·.date.month)

/-- The day of the month. -/
def day : Value → Except Fault Value := part (·.day) (·.date.day)

/-- The hour. -/
def hour : Value → Except Fault Value := part (fun _ => 0) (·.clock.hour)

/-- The minute. -/
def minute : Value → Except Fault Value := part (fun _ => 0) (·.clock.minute)

/-- Units of time. -/
inductive DateUnit
  | months
  | years
  /-- A unit of that many seconds. -/
  | fixed (seconds : Nat)
deriving DecidableEq, Repr

/-- The words for units of fixed length. -/
def fixedUnits : List (List String × Nat) := [
  (["second", "seconds", "s"], 1),
  (["minute", "minutes", "min"], 60),
  (["hour", "hours", "h"], 3600),
  (["day", "days", "d"], 86400),
  (["week", "weeks", "w"], 604800)]

/-- The unit of a word. -/
def DateUnit.ofWord? (word : String) : Option DateUnit :=
  if ["month", "months", "m"].contains word then some .months
  else if ["year", "years", "y"].contains word then some .years
  else (fixedUnits.find? (·.1.contains word)).map (.fixed ·.2)

/-- The unit that a value names, in any letter case and with blanks around it. -/
def unitOf? (v : Value) : Except Fault (Option DateUnit) := do
  return DateUnit.ofWord? (Text.lower (Text.trim (← v.toText)))

/-- The full units between two instants: their seconds as a number, divided to the floor. -/
def fullUnits (start finish : DateTime) (seconds : Nat) : Option Int := do
  let span ← Binary64.ofIntRatio? (finish.instant - start.instant) secondMicros
  let unit ← Binary64.ofInt? seconds
  Binary64.trunc? (Binary64.floorDiv span unit)

/-- The difference of two dates in some unit; months and years by the calendar alone. -/
def difference (start finish unit : Value) : Except Fault Value := do
  match Value.datetimePair? start finish with
  | none => return .null
  | some (a, b) =>
    let years : Int := (b.date.year : Int) - a.date.year
    match ← unitOf? unit with
    | none => return .null
    | some .months => return .int (years * 12 + ((b.date.month : Int) - a.date.month))
    | some .years => return .int years
    | some (.fixed seconds) => return ((fullUnits a b seconds).map .int).getD .null

/-- A date some months later. -/
def addMonths (d : Value.DateLike) (months : Int) : Option Value.DateLike :=
  match d with
  | .date d => (d.addMonths months).map .date
  | .datetime t => (t.date.addMonths months).map fun d => .datetime { t with date := d }

/-- A date some seconds later; a date alone becomes its midnight when the unit is no number of
days. -/
def addSeconds (d : Value.DateLike) (unit : Nat) (amount : Int) : Option Value.DateLike :=
  let d : Value.DateLike :=
    match d with
    | .date d => if unit % 86400 = 0 then .date d else .datetime (.ofDate d)
    | .datetime t => .datetime t
  Arithmetic.addMicros d (amount * unit * secondMicros)

/-- A date some units later, nothing outside the calendar. -/
def shifted (v count unit : Value) : Except Fault Value := do
  match v.toDate? with
  | none => return .null
  | some d =>
    let amount := count.toInteger 0
    let result :=
      match ← unitOf? unit with
      | none => none
      | some .months => addMonths d amount
      | some .years => addMonths d (amount * 12)
      | some (.fixed seconds) => addSeconds d seconds amount
    return (result.map (·.toValue)).getD .null

/-- The operators on dates, for the given moment as the present. -/
def operators (now : DateTime) : List Operator := [
  { id := "TODAY", displayName := "Today", category := .date,
    inputs := some [], output := .date, arity := .fixed 0,
    description := "Current date.", rule := Rule.nullary (.date now.date) },
  { id := "NOW", displayName := "Now", category := .date,
    inputs := some [], output := .date, arity := .fixed 0,
    description := "Current date and time.", rule := Rule.nullary (.datetime now) },
  { id := "YEAR", displayName := "Year", category := .date,
    inputs := some [.date], output := .number, arity := .fixed 1,
    examples := [([.text "2024-03-15"], .int 2024)], rule := Rule.unary year },
  { id := "MONTH", displayName := "Month", category := .date,
    inputs := some [.date], output := .number, arity := .fixed 1,
    examples := [([.text "2024-03-15"], .int 3)], rule := Rule.unary month },
  { id := "DAY", displayName := "Day", category := .date,
    inputs := some [.date], output := .number, arity := .fixed 1,
    examples := [([.text "2024-03-15"], .int 15)], rule := Rule.unary day },
  { id := "HOUR", displayName := "Hour", category := .date,
    inputs := some [.date], output := .number, arity := .fixed 1, rule := Rule.unary hour },
  { id := "MINUTE", displayName := "Minute", category := .date,
    inputs := some [.date], output := .number, arity := .fixed 1, rule := Rule.unary minute },
  { id := "DATEDIFF", displayName := "Date Difference", category := .date,
    inputs := some [.date, .date, .text], output := .number, arity := .fixed 3, minArity := 2,
    aliases := ["DATETIME_DIFF"],
    description :=
      "Whole units from ``start`` to ``end`` (days, weeks, months, years, ...).",
    examples := [([.text "2024-01-01", .text "2024-01-31"], .int 30)],
    rule := Rule.ternaryWith (.text "days") difference },
  { id := "DATEADD", displayName := "Date Add", category := .date,
    inputs := some [.date, .number, .text], output := .date, arity := .fixed 3, minArity := 2,
    description := "Shift a date by a count of units; month ends are clamped.",
    examples := [([.text "2024-01-31", .int 1, .text "months"], .date ⟨2024, 2, 29, by decide⟩)],
    rule := Rule.ternaryWith (.text "days") shifted }]

end RecordCalc.Dates
