/-
  Arithmetic: the four operations with remainder and power, signs, roots and rounding. A date plus a
  number is a date that many days later, and a date minus a date a number of days.
-/
import RecordCalc.Number.Power
import RecordCalc.Operator.Rule

namespace RecordCalc.Arithmetic

open Calendar (Date DateTime dayMicros microsOfDays?)

/-- A date some microseconds later; a date without a time moves by whole days. -/
def addMicros (d : Value.DateLike) (micros : Int) : Option Value.DateLike :=
  match d with
  | .date d => (d.addDays (Int.fdiv micros dayMicros)).map .date
  | .datetime t => (t.addMicros micros).map .datetime

/-- A date some days later, none outside the calendar. -/
def shiftDays (d : Value.DateLike) (days : Number) : Option Value.DateLike :=
  match days with
  | .int n => addMicros d (n * dayMicros)
  | .float x => (microsOfDays? x).bind (addMicros d)
  | .nan _ => none

/-- A shifted date as a value, nothing outside the calendar. -/
def shiftedDate (d : Value.DateLike) (days : Number) : Value :=
  ((shiftDays d days).map (·.toValue)).getD .null

/-- The date of a date value. -/
def dateLike? : Value → Option Value.DateLike
  | .date d => some (.date d)
  | .datetime t => some (.datetime t)
  | _ => none

/-- The sum. -/
def add (a b : Value) : Except Fault Value :=
  match dateLike? a, dateLike? b with
  | some d, none => .ok (shiftedDate d b.toNumber)
  | none, some d => .ok (shiftedDate d a.toNumber)
  | _, _ => .number <$> a.toNumber.add b.toNumber

/-- The full days from the second of two dates to the first. -/
def daysBetween (a b : Value) : Value :=
  match Value.datetimePair? a b with
  | some (s, t) => .int (Int.fdiv (s.instant - t.instant) dayMicros)
  | none => .null

/-- The difference. -/
def subtract (a b : Value) : Except Fault Value :=
  match dateLike? a, dateLike? b with
  | some _, some _ => .ok (daysBetween a b)
  | some d, none => .ok (shiftedDate d b.toNumber.neg)
  | none, _ => .number <$> a.toNumber.sub b.toNumber

/-- The product. -/
def multiply (a b : Value) : Except Fault Value := .number <$> a.toNumber.mul b.toNumber

/-- A rule that divides; a divisor of zero is a failure of the operator. -/
def dividing (id : String) (f : Number → Number → Except Fault Number) : Rule
  | [a, b] =>
    if b.toNumber.isZero then .error (.divisionByZero id)
    else Rule.lift (.number <$> f a.toNumber b.toNumber)
  | _ => .error Rule.wrongCount

/-- The power, nothing where it is undefined or too large. -/
def power (a b : Value) : Except Fault Value :=
  .ok (.ofNumber? (a.toNumber.power b.toNumber))

/-- The number with the other sign. -/
def negate (a : Value) : Except Fault Value := .ok (.number a.toNumber.neg)

/-- The absolute value. -/
def abs (a : Value) : Except Fault Value := .ok (.number a.toNumber.abs)

/-- The square root, nothing below zero. -/
def sqrt (a : Value) : Except Fault Value := do
  return .ofNumber? ((← a.toNumber.sqrt).map .float)

/-- The number rounded to some decimal places, a half away from zero. -/
def round (a digits : Value) : Except Fault Value :=
  .number <$> a.toNumber.roundHalfAway (digits.toInteger 0)

/-- A multiple of a step near a number; the quotient is rounded as `rounding` says. -/
def toMultiple (rounding : Number → Except Fault Int) (a step : Value) : Except Fault Value := do
  let n := a.toNumber
  let s := step.toNumber
  if n.isNotFinite then return .number n
  if s.isZero then return .int 0
  let quotient ← n.ratio s
  let result ← Number.mul (.int (← rounding (.float quotient))) s
  let x ← result.toFloat
  if Binary64.isIntegral x then return .int (← result.trunc) else return .number result

/-- The greatest multiple of a step not above a number. -/
def floor : Value → Value → Except Fault Value := toMultiple Number.floor

/-- The least multiple of a step not below a number. -/
def ceiling : Value → Value → Except Fault Value := toMultiple Number.ceil

/-- The greatest integer not above a number. -/
def int (a : Value) : Except Fault Value :=
  let n := a.toNumber
  if n.isNotFinite then .ok (.number n) else .int <$> n.floor

/-- The arithmetic operators. -/
def operators : List Operator := [
  { id := "ADD", displayName := "Add", symbol := "+", category := .arithmetic,
    inputs := some [.number, .number], output := .number, arity := .fixed 2,
    laws := [.associative, .commutative, .identity], identity := .int 0,
    inverse := some "SUBTRACT",
    description := "Add two numbers; a date plus a number moves the date by that many days.",
    examples := [([.int 5, .int 3], .int 8), ([.int (-2), .int 7], .int 5)],
    rule := Rule.binary add },
  { id := "SUBTRACT", displayName := "Subtract", symbol := "-", category := .arithmetic,
    inputs := some [.number, .number], output := .number, arity := .fixed 2,
    laws := [.identity], identity := .int 0, identitySide := .right, inverse := some "ADD",
    description := "Subtract two numbers; date minus date gives the difference in days.",
    examples := [([.int 10, .int 4], .int 6), ([.int 500, .int 200], .int 300)],
    rule := Rule.binary subtract },
  { id := "MULTIPLY", displayName := "Multiply", symbol := "*", category := .arithmetic,
    inputs := some [.number, .number], output := .number, arity := .fixed 2,
    laws := [.associative, .commutative, .identity, .absorbing, .distributive],
    identity := .int 1, absorbing := .int 0, inverse := some "DIVIDE",
    description := "Multiply two numbers.",
    examples := [([.int 4, .int 5], .int 20), ([.int 7, .int 0], .int 0)],
    rule := Rule.binary multiply },
  { id := "DIVIDE", displayName := "Divide", symbol := "/", category := .arithmetic,
    inputs := some [.number, .number], output := .number, arity := .fixed 2,
    laws := [.identity], identity := .int 1, identitySide := .right, inverse := some "MULTIPLY",
    description := "Divide two numbers.",
    examples := [([.int 20, .int 4], .int 5), ([.int 7, .int 2], .float 3.5)],
    rule := dividing "DIVIDE" Number.div },
  { id := "MODULO", displayName := "Modulo", symbol := "%", category := .arithmetic,
    inputs := some [.number, .number], output := .number, arity := .fixed 2, aliases := ["MOD"],
    description := "Remainder of a division (sign follows the divisor).",
    examples := [([.int 10, .int 3], .int 1)],
    rule := dividing "MODULO" Number.mod },
  { id := "POWER", displayName := "Power", symbol := "^", category := .arithmetic,
    inputs := some [.number, .number], output := .number, arity := .fixed 2,
    description := "Raise a number to a power; undefined results are NULL.",
    examples := [([.int 2, .int 10], .int 1024)],
    rule := Rule.binary power },
  { id := "NEGATE", displayName := "Negate", symbol := "-", category := .arithmetic,
    inputs := some [.number], output := .number, arity := .fixed 1, laws := [.involutory],
    description := "Flip the sign of a number.",
    examples := [([.int 5], .int (-5))],
    rule := Rule.unary negate },
  { id := "ABS", displayName := "Absolute Value", category := .arithmetic,
    inputs := some [.number], output := .number, arity := .fixed 1, laws := [.idempotent],
    description := "Absolute value.",
    examples := [([.int (-5)], .int 5)],
    rule := Rule.unary abs },
  { id := "SQRT", displayName := "Square Root", category := .arithmetic,
    inputs := some [.number], output := .number, arity := .fixed 1,
    description := "Square root; negative input has none.",
    examples := [([.int 16], .float 4.0)],
    rule := Rule.unary sqrt },
  { id := "ROUND", displayName := "Round", category := .arithmetic,
    inputs := some [.number, .number], output := .number, arity := .fixed 2, minArity := 1,
    laws := [.idempotent],
    description := "Round half away from zero to the given number of decimal places.",
    examples := [([.float 3.14159, .int 2], .float 3.14), ([.float 2.5], .int 3)],
    rule := Rule.binaryWith (.int 0) round },
  { id := "FLOOR", displayName := "Floor", category := .arithmetic,
    inputs := some [.number, .number], output := .number, arity := .fixed 2, minArity := 1,
    laws := [.idempotent],
    description := "Round down to the nearest multiple of significance.",
    examples := [([.float 3.7], .int 3)],
    rule := Rule.binaryWith (.int 1) floor },
  { id := "CEIL", displayName := "Ceiling", category := .arithmetic,
    inputs := some [.number, .number], output := .number, arity := .fixed 2, minArity := 1,
    laws := [.idempotent], aliases := ["CEILING"],
    description := "Round up to the nearest multiple of significance.",
    examples := [([.float 3.2], .int 4)],
    rule := Rule.binaryWith (.int 1) ceiling },
  { id := "INT", displayName := "Integer", category := .arithmetic,
    inputs := some [.number], output := .number, arity := .fixed 1,
    description := "Round down to an integer.",
    examples := [([.float (-2.5)], .int (-3))],
    rule := Rule.unary int }]

end RecordCalc.Arithmetic
