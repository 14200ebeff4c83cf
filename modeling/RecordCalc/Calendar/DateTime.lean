/-
  Times of the day and datetimes to the microsecond. A datetime may carry the offset of its clock
  from universal time; one without is read as universal time where an instant is needed.
-/
import RecordCalc.Calendar.Date
import RecordCalc.Number.Binary64

namespace RecordCalc.Calendar

/-- Microseconds in a second. -/
def secondMicros : Nat := 1000000

/-- Microseconds in a day. -/
def dayMicros : Nat := 86400 * secondMicros

/-- A time of the day, as the microseconds since midnight. -/
structure Clock where
  micros : Nat
  lt_day : micros < dayMicros
deriving DecidableEq

namespace Clock

/-- The time at hour, minute, second and microsecond. -/
def ofHms? (hour minute second micro : Nat) : Option Clock :=
  if h : hour < 24 ∧ minute < 60 ∧ second < 60 ∧ micro < secondMicros then
    some ⟨((hour * 60 + minute) * 60 + second) * secondMicros + micro, by
      simp only [dayMicros, secondMicros] at *; omega⟩
  else none

/-- Midnight. -/
def midnight : Clock := ⟨0, by decide⟩

/-- The full hours since midnight. -/
def hour (c : Clock) : Nat := c.micros / (3600 * secondMicros)

/-- The full minutes of the hour. -/
def minute (c : Clock) : Nat := c.micros / (60 * secondMicros) % 60

/-- The full seconds of the minute. -/
def second (c : Clock) : Nat := c.micros / secondMicros % 60

/-- The microseconds of the second. -/
def micro (c : Clock) : Nat := c.micros % secondMicros

end Clock

/-- The offset of a clock from universal time in microseconds, less than a day either way. -/
structure Offset where
  micros : Int
  lt_day : micros.natAbs < dayMicros
deriving DecidableEq

namespace Offset

/-- Universal time. -/
def utc : Offset := ⟨0, by decide⟩

/-- The offset of some microseconds. -/
def ofMicros? (micros : Int) : Option Offset :=
  if h : micros.natAbs < dayMicros then some ⟨micros, h⟩ else none

end Offset

/-- A date and a time of the day, with or without an offset. -/
structure DateTime where
  date : Date
  clock : Clock
  offset : Option Offset
deriving DecidableEq

namespace DateTime

/-- Midnight of a date. -/
def ofDate (d : Date) : DateTime := ⟨d, .midnight, none⟩

/-- The microseconds that the calendar and the clock show, counted from the day of ordinal 0. -/
def shownMicros (t : DateTime) : Int := t.date.ordinal * dayMicros + t.clock.micros

/-- The datetime that shows the given microseconds, none outside the calendar. -/
def ofShownMicros? (micros : Int) (offset : Option Offset) : Option DateTime :=
  (Date.ofOrdinal? (Int.fdiv micros dayMicros)).map fun d =>
    ⟨d, ⟨(Int.fmod micros dayMicros).toNat, by
      have h : (0 : Int) < dayMicros := by decide
      have := Int.fmod_nonneg_of_pos micros h
      have := Int.fmod_lt_of_pos micros h
      omega⟩, offset⟩

/-- The microseconds of the instant, counted from the day of ordinal 0 in universal time. -/
def instant (t : DateTime) : Int := t.shownMicros - (t.offset.map (·.micros)).getD 0

/-- The datetime with an offset: one without is taken as universal time. -/
def withOffset (t : DateTime) : DateTime := { t with offset := some (t.offset.getD .utc) }

/-- The datetime some microseconds later on the same clock, none outside the calendar. -/
def addMicros (t : DateTime) (micros : Int) : Option DateTime :=
  ofShownMicros? (t.shownMicros + micros) t.offset

/-- The instant from which timestamps count: January 1, 1970. -/
def epoch : Int := 719163 * dayMicros

/-- The seconds since the epoch, as the nearest floating-point number. -/
def timestamp (t : DateTime) : Float :=
  (Binary64.ofIntRatio? (t.instant - epoch) secondMicros).getD 0

/-- The datetime in universal time at some seconds since the epoch, a half microsecond going to the
even neighbour; none outside the calendar. -/
def ofTimestamp? (seconds : Float) : Option DateTime := do
  let whole ← Binary64.trunc? seconds
  let micros ← roundEven? (Binary64.fraction seconds * 1000000)
  ofShownMicros? (epoch + whole * secondMicros + micros) (some .utc)
where
  /-- The nearest integer, a half going to the even neighbour. -/
  roundEven? (x : Float) : Option Int :=
    match Binary64.parts x with
    | .finite negative m e =>
      some (Binary64.signed negative
        (if 0 ≤ e then m <<< e.toNat else Binary64.roundDiv m (1 <<< (-e).toNat)))
    | _ => none

end DateTime

/-- The microseconds of a number of days: the fraction of a day is taken to the nearest microsecond,
a half going to the even neighbour. -/
def microsOfDays? (days : Float) : Option Int := do
  let whole ← Binary64.trunc? days
  let part := Binary64.fraction days * 86400000000
  match Binary64.parts part with
  | .finite negative m e =>
    let base := whole * dayMicros
    if 0 ≤ e then return base + Binary64.signed negative (m <<< e.toNat)
    else
      let unit := 1 <<< (-e).toNat
      let total : Int := base * unit + Binary64.signed negative m
      return Binary64.signed (total < 0) (Binary64.roundDiv total.natAbs unit)
  | _ => none

end RecordCalc.Calendar
