/-
  Powers and roots. An integer power of an integer is exact as long as its size stays within a
  bound; every other power is a floating-point number, and one that is undefined or too large has no
  value.
-/
import RecordCalc.Number.Basic

namespace RecordCalc.Number

/-- The bound on the bits of an exact power. -/
def powerBitLimit : Nat := Nat.pow 2 16

/-- How many bits a natural has, none for zero. -/
def bitLength (n : Nat) : Nat := if n = 0 then 0 else n.log2 + 1

/-- Whether a floating-point number is an odd integer. -/
def isOddFloat (x : Float) : Bool :=
  match Binary64.trunc? x with
  | some n => Binary64.isIntegral x && n % 2 != 0
  | none => false

/-- A power where an operand is infinite or not-a-number. -/
def specialPower (x y : Float) : Float :=
  if Binary64.isNaN x then if y == 0 then 1 else x
  else if Binary64.isNaN y then if x == 1 then 1 else y
  else if Binary64.isInfinite x then
    if 0 < y then if isOddFloat y then x else x.abs
    else if y == 0 then 1
    else Binary64.zero (isOddFloat y && Binary64.signBit x)
  else if x.abs == 1 then 1
  else if (0 < y) == (1 < x.abs) then y.abs
  else 0

/-- A floating-point power, none where it is undefined or too large. -/
def floatPower (x y : Float) : Option Float :=
  if Binary64.isFinite x && Binary64.isFinite y then
    let r := x.pow y
    if Binary64.isFinite r then some r else none
  else some (specialPower x y)

/-- A power. -/
def power (base exponent : Number) : Option Number :=
  let inFloat : Option Number :=
    match base.toFloat, exponent.toFloat with
    | .ok x, .ok y => (floatPower x y).map float
    | _, _ => none
  match base, exponent with
  | int b, int e =>
    if 0 ≤ e && bitLength b.natAbs * e.toNat ≤ powerBitLimit then some (int (Int.pow b e.toNat))
    else inFloat
  | _, _ => inFloat

/-- The square root, none below zero. -/
def sqrt (n : Number) : Except Fault (Option Float) :=
  if n.isNegative then .ok none else (fun x => some x.sqrt) <$> n.toFloat

end RecordCalc.Number
