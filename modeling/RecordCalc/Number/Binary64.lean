/-
  Binary floating-point numbers of 64 bits: taking one apart into sign, mantissa and exponent, and
  the nearest such number to a quotient of naturals, a tie going to the even mantissa.
-/
namespace RecordCalc.Binary64

/-- A floating-point number taken apart; a finite one is `± mantissa · 2 ^ exponent`. -/
inductive Parts
  | finite (negative : Bool) (mantissa : Nat) (exponent : Int)
  | infinite (negative : Bool)
  | notANumber
deriving DecidableEq, Repr

/-- The parts of a floating-point number, read off its bits. -/
def parts (x : Float) : Parts :=
  let bits : Nat := x.toBits.toNat
  let negative := Nat.pow 2 63 ≤ bits
  let biased : Nat := bits / Nat.pow 2 52 % 2048
  let fraction : Nat := bits % Nat.pow 2 52
  if biased = 2047 then if fraction = 0 then .infinite negative else .notANumber
  else if biased = 0 then .finite negative fraction (-1074)
  else .finite negative (fraction + Nat.pow 2 52) ((biased : Int) - 1075)

/-- Whether the number is not-a-number. -/
def isNaN (x : Float) : Bool := parts x == .notANumber

/-- Whether the number is an infinity. -/
def isInfinite (x : Float) : Bool :=
  match parts x with
  | .infinite _ => true
  | _ => false

/-- Whether the number is finite. -/
def isFinite (x : Float) : Bool :=
  match parts x with
  | .finite .. => true
  | _ => false

/-- Whether the sign bit is set. -/
def signBit (x : Float) : Bool := Nat.pow 2 63 ≤ x.toBits.toNat

/-- The number with the given sign bit and the given other bits. -/
def ofBits (negative : Bool) (magnitude : Nat) : Float :=
  Float.ofBits (UInt64.ofNat (magnitude + if negative then Nat.pow 2 63 else 0))

/-- The bits of infinity. -/
def infinityBits : Nat := 2047 * Nat.pow 2 52

/-- An infinity. -/
def infinity (negative : Bool) : Float := ofBits negative infinityBits

/-- Not-a-number. -/
def nan : Float := Float.ofBits 0x7ff8000000000000

/-- A zero of either sign. -/
def zero (negative : Bool) : Float := ofBits negative 0

/-- The quotient rounded to the nearest natural, a tie going to the even one. -/
def roundDiv (num den : Nat) : Nat :=
  let q := num / den
  let r := num % den
  if 2 * r < den then q else if den < 2 * r then q + 1 else q + q % 2

/-- The quotient `num / den` divided by `2 ^ e`, as a quotient. -/
def scaled (num den : Nat) (e : Int) : Nat × Nat :=
  if 0 ≤ e then (num, den <<< e.toNat) else (num <<< (-e).toNat, den)

/-- The exponent of the mantissa's unit for `num / den`: the mantissa gets 53 bits, or fewer at the
least exponent. -/
def unitExponent (num den : Nat) : Int :=
  let e : Int := (num.log2 : Int) - den.log2 - 52
  let (a, b) := scaled num den e
  max (if a < b <<< 52 then e - 1 else e) (-1074)

/-- The bits, without sign, of the number nearest `num / den`; those of infinity when it is too
large. -/
def nearestBits (num den : Nat) : Nat :=
  if num = 0 then 0
  else
    let e := unitExponent num den
    let (a, b) := scaled num den e
    min ((e + 1074).toNat * Nat.pow 2 52 + roundDiv a b) infinityBits

/-- The number nearest `± num / den`. -/
def ofRatio (negative : Bool) (num den : Nat) : Float := ofBits negative (nearestBits num den)

/-- The number nearest an integer, none beyond the finite range. -/
def ofInt? (n : Int) : Option Float :=
  let bits := nearestBits n.natAbs 1
  if bits = infinityBits then none else some (ofBits (n < 0) bits)

/-- The number nearest a quotient of integers, none beyond the finite range. -/
def ofIntRatio? (a b : Int) : Option Float :=
  let bits := nearestBits a.natAbs b.natAbs
  if bits = infinityBits then none else some (ofBits ((a < 0) != (b < 0)) bits)

/-- `± mantissa · 2 ^ exponent` as a number. -/
def ofParts (negative : Bool) (mantissa : Nat) (exponent : Int) : Float :=
  if 0 ≤ exponent then ofRatio negative (mantissa <<< exponent.toNat) 1
  else ofRatio negative mantissa (1 <<< (-exponent).toNat)

/-- A signed magnitude as an integer. -/
def signed (negative : Bool) (n : Nat) : Int := if negative then -n else n

/-- The greatest integer not above a finite number. -/
def floor? (x : Float) : Option Int :=
  match parts x with
  | .finite negative m e =>
    some (if 0 ≤ e then signed negative (m <<< e.toNat)
      else Int.fdiv (signed negative m) (1 <<< (-e).toNat : Nat))
  | _ => none

/-- The least integer not below a finite number. -/
def ceil? (x : Float) : Option Int := (floor? (-x)).map (- ·)

/-- A finite number without its fraction. -/
def trunc? (x : Float) : Option Int :=
  match parts x with
  | .finite negative m e =>
    some (signed negative (if 0 ≤ e then m <<< e.toNat else m >>> (-e).toNat))
  | _ => none

/-- Whether a number is a whole number; infinities are not. -/
def isIntegral (x : Float) : Bool :=
  match parts x with
  | .finite _ m e => 0 ≤ e || m % (1 <<< (-e).toNat) == 0
  | _ => false

/-- The fraction of a finite number, with its sign, zero for the others. -/
def fraction (x : Float) : Float :=
  match parts x with
  | .finite negative m e =>
    if 0 ≤ e then zero negative else ofParts negative (m % (1 <<< (-e).toNat)) e
  | _ => zero (signBit x)

/-- The order of an integer and a number that is not not-a-number, both taken exactly. -/
def compareInt (n : Int) (x : Float) : Ordering :=
  match parts x with
  | .finite negative m e =>
    if 0 ≤ e then compare n (signed negative (m <<< e.toNat))
    else compare (n * (1 <<< (-e).toNat : Nat)) (signed negative m)
  | .infinite negative => if negative then .gt else .lt
  | .notANumber => .eq

/-- The remainder of the division toward zero: the sign is that of `x`. -/
def truncMod (x y : Float) : Float :=
  match parts x, parts y with
  | .finite negative m e, .finite _ m' e' =>
    if m' = 0 then nan
    else
      let unit := min e e'
      ofParts negative ((m <<< (e - unit).toNat) % (m' <<< (e' - unit).toNat)) unit
  | .finite .., .infinite _ => x
  | _, _ => nan

/-- The remainder of the division toward the floor: the sign is that of `y`. -/
def floorMod (x y : Float) : Float :=
  let r := truncMod x y
  if r == 0 then zero (signBit y)
  else if (y < 0) != (r < 0) then r + y else r

/-- The greatest whole number not above, as a floating-point number; what is not finite stays. -/
def floor (x : Float) : Float :=
  match floor? x with
  | some n => if n = 0 then zero (signBit x) else (ofInt? n).getD x
  | none => x

/-- The floor of `x / y`, computed from the remainder as floating-point numbers allow. -/
def floorDiv (x y : Float) : Float :=
  let r := truncMod x y
  let q := (x - r) / y
  let q := if r != 0 && ((y < 0) != (r < 0)) then q - 1 else q
  if q == 0 then zero (signBit (x / y))
  else
    let f := floor q
    if 0.5 < q - f then f + 1 else f

end RecordCalc.Binary64
