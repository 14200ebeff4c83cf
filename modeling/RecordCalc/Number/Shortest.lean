/-
  The shortest decimal that reads back as a given floating-point number. For a growing count of
  digits the two neighbours of the number on that decimal grid are tested against the interval of
  reals that round to the number; the first grid with a hit wins, of two hits the nearer, of two
  equally near the even one.
-/
import RecordCalc.Number.Binary64

namespace RecordCalc.Binary64

/-- The decimal number `digits · 10 ^ exponent`. -/
structure DecimalForm where
  digits : Nat
  exponent : Int
deriving DecidableEq, Repr

/-- The reals that round to a positive number, as bounds over the denominator `den`; the bounds
belong to the interval when `closed`. -/
structure Interval where
  low : Nat
  value : Nat
  high : Nat
  den : Nat
  closed : Bool

/-- The interval of `m · 2 ^ e`: half a unit to each side, a quarter below a power of two. -/
def interval (m : Nat) (e : Int) : Interval :=
  let narrow := m = Nat.pow 2 52 && -1074 < e
  let low := if narrow then 4 * m - 1 else 4 * m - 2
  let up := e.toNat
  let down := (-e).toNat
  ⟨low <<< up, (4 * m) <<< up, (4 * m + 2) <<< up, 4 <<< down, m % 2 == 0⟩

/-- Whether `d · 10 ^ k` lies in the interval. -/
def Interval.holds (i : Interval) (d : Nat) (k : Int) : Bool :=
  let n := d * Nat.pow 10 k.toNat * i.den
  let s := Nat.pow 10 (-k).toNat
  if i.closed then i.low * s ≤ n && n ≤ i.high * s else i.low * s < n && n < i.high * s

/-- The hit on the grid of multiples of `10 ^ k`, if there is one. -/
def Interval.hit? (i : Interval) (k : Int) : Option Nat :=
  let num := i.value * Nat.pow 10 (-k).toNat
  let den := i.den * Nat.pow 10 k.toNat
  let d := num / den
  let r := num % den
  let nearer := if 2 * r < den || (2 * r = den && d % 2 = 0) then d else d + 1
  let other := if nearer = d then d + 1 else d
  if i.holds nearer k then some nearer else if i.holds other k then some other else none

/-- Greatest `k` with `10 ^ k ≤ num / den`, searched downward from `k` for at most `fuel` steps. -/
def decimalExponent (num den : Nat) (k : Int) : Nat → Int
  | 0 => k
  | fuel + 1 =>
    if den * Nat.pow 10 k.toNat ≤ num * Nat.pow 10 (-k).toNat then k
    else decimalExponent num den (k - 1) fuel

/-- Drops zeros at the end of the digits, at most `fuel` of them. -/
def DecimalForm.normalize (d : DecimalForm) : Nat → DecimalForm
  | 0 => d
  | fuel + 1 =>
    if d.digits % 10 = 0 && d.digits ≠ 0 then
      DecimalForm.normalize ⟨d.digits / 10, d.exponent + 1⟩ fuel
    else d

/-- The first hit on the grids from `count` digits to `count + fuel` digits. -/
def Interval.shortest (i : Interval) (magnitude : Int) (count : Nat) : Nat → DecimalForm
  | 0 => ⟨i.value / i.den, 0⟩
  | fuel + 1 =>
    let k := magnitude - count + 1
    match i.hit? k with
    | some d => ⟨d, k⟩
    | none => i.shortest magnitude (count + 1) fuel

/-- The shortest decimal form of `m · 2 ^ e` for a positive `m`. -/
def shortest (m : Nat) (e : Int) : DecimalForm :=
  let i := interval m e
  let guess : Int := ((i.value.log2 : Int) - i.den.log2 + 1) * 30103 / 100000 + 1
  (i.shortest (decimalExponent i.value i.den guess 8) 1 17).normalize 20

end RecordCalc.Binary64
