/-
  Floating-point numbers with a chosen number of places: positional, with an exponent, or whichever
  of the two suits the magnitude. The exact value is rounded to the nearest written one, a tie going
  to the even digit.
-/
import RecordCalc.Number.Layout
import RecordCalc.Number.Numeral

namespace RecordCalc.Binary64

/-- The forms of a number with a chosen number of places. -/
inductive PlacesForm
  /-- So many places after the point. -/
  | positional
  /-- One digit before the point and so many after it, with an exponent. -/
  | scientific
  /-- So many digits in all, without the zeros at the end. -/
  | general
deriving DecidableEq, Repr

/-- The value `m · 2 ^ e` as a quotient. -/
def quotient (m : Nat) (e : Int) : Nat × Nat :=
  if 0 ≤ e then (m <<< e.toNat, 1) else (m, 1 <<< (-e).toNat)

/-- Greatest `k` with `10 ^ k ≤ num / den`, for a positive quotient. -/
def magnitudeOf (num den : Nat) : Int :=
  if den ≤ num then decimalLength (num / den) - 1 else -(decimalLength ((den - 1) / num) : Int)

/-- The quotient in units of `10 ^ k`, rounded. -/
def roundedAt (num den : Nat) (k : Int) : Nat :=
  roundDiv (num * Nat.pow 10 (-k).toNat) (den * Nat.pow 10 k.toNat)

/-- The first `count` digits of a quotient, rounded, and the power of ten of the leading one. -/
def leadingDigits (num den count : Nat) : List Char × Int :=
  if num = 0 then (List.replicate count '0', 0)
  else
    let k := magnitudeOf num den
    let ds := (toString (roundedAt num den (k - count + 1))).toList
    if count < ds.length then (ds.take count, k + 1) else (ds, k)

/-- Digits with a point before the last `places` of them, zeros in front where digits lack; without
places the point stands only when it is to be kept. -/
def pointAt (ds : List Char) (places : Nat) (keepPoint : Bool) : List Char :=
  let ds := List.replicate (places + 1 - ds.length) '0' ++ ds
  let whole := ds.length - places
  ds.take whole ++ if places = 0 && !keepPoint then [] else '.' :: ds.drop whole

/-- Digits with an exponent of at least two digits. -/
def withExponent (ds : List Char) (magnitude : Int) (keepPoint : Bool) : List Char :=
  pointAt ds (ds.length - 1) keepPoint ++ 'e' :: (if magnitude < 0 then '-' else '+') ::
    (padded magnitude.natAbs 2).toList

/-- Digits without the zeros at the end, at least `least` of them. -/
def withoutZeros (ds : List Char) (least : Nat) : List Char :=
  let kept := (ds.reverse.dropWhile (· == '0')).reverse
  kept ++ List.replicate (least - kept.length) '0'

/-- A quotient in the general form with `count` digits; with `full` the zeros at the end stay. -/
def generalChars (num den count : Nat) (full : Bool) : List Char :=
  let (ds, k) := leadingDigits num den count
  if -4 ≤ k && k < count then
    if 0 ≤ k then
      let whole := k.toNat + 1
      let ds := if full then ds else withoutZeros ds whole
      pointAt ds (ds.length - whole) full
    else
      let ds := if full then ds else withoutZeros ds 1
      pointAt ds (ds.length + k.natAbs - 1) full
  else withExponent (if full then ds else withoutZeros ds 1) k full

/-- The size of a number in a form with a number of places; with `full` a point is always
written. -/
def sizeChars (form : PlacesForm) (places : Nat) (full : Bool) (m : Nat) (e : Int) : List Char :=
  let (num, den) := quotient m e
  match form with
  | .positional => pointAt (toString (roundedAt num den (-places))).toList places full
  | .scientific =>
    let (ds, k) := leadingDigits num den (places + 1)
    withExponent ds k full
  | .general => generalChars num den (max places 1) full

/-- Whether a number is written with a minus, and how its size is written. -/
def writePlaces (form : PlacesForm) (places : Nat) (full : Bool) (x : Float) : Bool × List Char :=
  match parts x with
  | .notANumber => (false, "nan".toList)
  | .infinite negative => (negative, "inf".toList)
  | .finite negative m e => (negative, sizeChars form places full m e)

end RecordCalc.Binary64
