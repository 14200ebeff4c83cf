/-
  Numbers: unbounded integers and floating-point numbers. Integers stay exact as long as both
  operands are integers; otherwise both become floating-point numbers, and an integer beyond their
  range is a fault. Comparison is exact in every case. A not-a-number that is kept somewhere knows
  its origin.
-/
import RecordCalc.Fault
import RecordCalc.Number.Layout
import RecordCalc.Number.Numeral
import RecordCalc.Number.Origin

namespace RecordCalc

/-- An integer of any size or a floating-point number. -/
inductive Number
  | int (n : Int)
  | float (x : Float)
  /-- A floating-point not-a-number that is kept. -/
  | nan (origin : Origin)

namespace Number

/-- The floating-point number nearest an integer. -/
def floatOfInt (n : Int) : Except Fault Float :=
  match Binary64.ofInt? n with
  | some x => .ok x
  | none => .error .integerTooLarge

/-- A number as a floating-point number. -/
def toFloat : Number → Except Fault Float
  | int n => floatOfInt n
  | float x => .ok x
  | nan _ => .ok Binary64.nan

/-- A number as it is kept: not-a-number gets an origin, unless it has one. -/
def keptAt (origin : Origin) : Number → Number
  | float x => if Binary64.isNaN x then nan origin else float x
  | n => n

/-- Whether two numbers are the same not-a-number. -/
def isSameNaN : Number → Number → Bool
  | nan a, nan b => a == b
  | _, _ => false

/-- Applies one operation to integers and another to all other pairs. -/
def combine (onInt : Int → Int → Int) (onFloat : Float → Float → Float) (a b : Number) :
    Except Fault Number :=
  match a, b with
  | int m, int n => .ok (int (onInt m n))
  | a, b => do
    let x ← a.toFloat
    let y ← b.toFloat
    return float (onFloat x y)

/-- The sum. -/
def add : Number → Number → Except Fault Number := combine (· + ·) (· + ·)

/-- The difference. -/
def sub : Number → Number → Except Fault Number := combine (· - ·) (· - ·)

/-- The product. -/
def mul : Number → Number → Except Fault Number := combine (· * ·) (· * ·)

/-- The remainder of the division toward the floor, for a divisor that is not zero. -/
def mod : Number → Number → Except Fault Number := combine Int.fmod Binary64.floorMod

/-- The negated number. -/
def neg : Number → Number
  | int n => int (-n)
  | float x => float (-x)
  | nan _ => float Binary64.nan

/-- The absolute value. -/
def abs : Number → Number
  | int n => int n.natAbs
  | float x => float x.abs
  | nan _ => float Binary64.nan

/-- Whether the number is zero. -/
def isZero : Number → Bool
  | int n => n == 0
  | float x => x == 0
  | nan _ => false

/-- Whether the number is below zero. -/
def isNegative : Number → Bool
  | int n => n < 0
  | float x => x < 0
  | nan _ => false

/-- The quotient as a floating-point number, for a divisor that is not zero. -/
def ratio : Number → Number → Except Fault Float
  | int m, int n =>
    match Binary64.ofIntRatio? m n with
    | some x => .ok x
    | none => .error .quotientTooLarge
  | a, b => do
    let x ← a.toFloat
    let y ← b.toFloat
    return x / y

/-- The quotient, exact when an integer divides an integer. -/
def div : Number → Number → Except Fault Number
  | int m, int n =>
    if Int.fmod m n = 0 then .ok (int (Int.fdiv m n)) else float <$> ratio (int m) (int n)
  | a, b => float <$> ratio a b

/-- The exact order of two numbers; not-a-number compares equal to everything. -/
def compare : Number → Number → Ordering
  | int m, int n => Ord.compare m n
  | int m, float y => Binary64.compareInt m y
  | float x, int n => (Binary64.compareInt n x).swap
  | float x, float y => if x < y then .lt else if y < x then .gt else .eq
  | nan _, _ | _, nan _ => .eq

/-- Exact equality; not-a-number equals nothing. -/
def equal : Number → Number → Bool
  | int m, int n => m == n
  | int m, float y => !Binary64.isNaN y && Binary64.compareInt m y == .eq
  | float x, int n => !Binary64.isNaN x && Binary64.compareInt n x == .eq
  | float x, float y => x == y
  | nan _, _ | _, nan _ => false

/-- The fault of taking a number that is not finite for an integer. -/
def notFinite (x : Float) : Fault :=
  if Binary64.isNaN x then .notANumberToInteger else .infinityToInteger

/-- The greatest integer not above. -/
def floor : Number → Except Fault Int
  | int n => .ok n
  | float x =>
    match Binary64.floor? x with
    | some n => .ok n
    | none => .error (notFinite x)
  | nan _ => .error .notANumberToInteger

/-- The least integer not below. -/
def ceil : Number → Except Fault Int
  | int n => .ok n
  | float x =>
    match Binary64.ceil? x with
    | some n => .ok n
    | none => .error (notFinite x)
  | nan _ => .error .notANumberToInteger

/-- The number without its fraction. -/
def trunc : Number → Except Fault Int
  | int n => .ok n
  | float x =>
    match Binary64.trunc? x with
    | some n => .ok n
    | none => .error (notFinite x)
  | nan _ => .error .notANumberToInteger

/-- Whether the number is an infinity. -/
def isInfinite : Number → Bool
  | int _ | nan _ => false
  | float x => Binary64.isInfinite x

/-- Whether the number is not finite, not-a-number included. -/
def isNotFinite : Number → Bool
  | int _ => false
  | float x => !Binary64.isFinite x
  | nan _ => true

/-- An integer in decimal digits, within the limit on their number. -/
def intText (n : Int) : Except Fault String :=
  if Fault.digitLimit < Binary64.decimalLength n.natAbs then .error .tooManyDigitsToWrite
  else .ok (toString n)

/-- A number as it is shown: a floating-point number always with a point or an exponent. -/
def shown : Number → Except Fault String
  | int n => intText n
  | float x => .ok (Binary64.write x)
  | nan _ => .ok (Binary64.write Binary64.nan)

/-- A number as text: a whole number without a point. -/
def text : Number → Except Fault String
  | int n => intText n
  | float x =>
    match Binary64.isIntegral x, Binary64.trunc? x with
    | true, some n => intText n
    | _, _ => .ok (Binary64.write x)
  | nan _ => .ok (Binary64.write Binary64.nan)

/-- The sum from left to right, starting at the integer zero. -/
def sum (ns : List Number) : Except Fault Number := ns.foldlM add (int 0)

end Number

end RecordCalc
