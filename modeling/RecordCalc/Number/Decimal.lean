/-
  Decimal numbers with their exact digits: reading and writing them, their integer and
  floating-point values, exact comparison, and rounding half away from zero to a given place within
  28 digits.
-/
import RecordCalc.Number.Basic

namespace RecordCalc

/-- A decimal number. A finite one is `± coefficient · 10 ^ exponent`. -/
inductive Decimal
  | finite (negative : Bool) (coefficient : Nat) (exponent : Int)
  | infinite (negative : Bool)
  /-- Not-a-number with its diagnostic digits, and its origin where it is kept; a signaling one
  faults when compared. -/
  | notANumber (signaling negative : Bool) (payload : Nat) (origin : Option Origin)
deriving DecidableEq, Repr

namespace Decimal

/-- The power of ten of the leading digit. -/
def adjusted (coefficient : Nat) (exponent : Int) : Int :=
  exponent + Binary64.decimalLength coefficient - 1

/-- Reads a decimal: a numeral with an optional sign, or a word, in any letter case. -/
def read? (s : String) : Option Decimal := do
  let (sign, cs) := Numeral.scanSign (Text.trimChars s.toList)
  let negative := sign == some '-'
  let lower := cs.map Char.toLower
  if lower = "inf".toList || lower = "infinity".toList then return .infinite negative
  if "nan".toList.isPrefixOf lower && (lower.drop 3).all Text.isDigit then
    return .notANumber false negative (Text.digitsValue (lower.drop 3)) none
  if "snan".toList.isPrefixOf lower && (lower.drop 4).all Text.isDigit then
    return .notANumber true negative (Text.digitsValue (lower.drop 4)) none
  match Numeral.scan? (cs.filter (· != '_')) with
  | some (n, []) => return .finite negative n.decimal.digits n.decimal.exponent
  | _ => none

/-- The digits with a point after the first `place` of them, padded with zeros on either side. -/
def pointed (digits : List Char) (place : Int) : List Char :=
  if place ≤ 0 then '0' :: '.' :: List.replicate (-place).toNat '0' ++ digits
  else
    let n := place.toNat
    if digits.length ≤ n then digits ++ List.replicate (n - digits.length) '0'
    else digits.take n ++ '.' :: digits.drop n

/-- A finite decimal without its sign: positional unless the exponent is positive or the leading
digit stands more than six places after the point. -/
def finiteText (coefficient : Nat) (exponent : Int) : String :=
  let digits := Nat.toDigits 10 coefficient
  let left := exponent + digits.length
  if exponent ≤ 0 && -6 < left then String.ofList (pointed digits left)
  else
    let power := left - 1
    String.ofList (pointed digits 1) ++
      if power = 0 then "" else "E" ++ (if power < 0 then "-" else "+") ++ toString power.natAbs

/-- A decimal as text. -/
def text : Decimal → String
  | finite negative c e => (if negative then "-" else "") ++ finiteText c e
  | infinite negative => (if negative then "-" else "") ++ "Infinity"
  | notANumber signaling negative payload _ =>
    (if negative then "-" else "") ++ (if signaling then "sNaN" else "NaN") ++
      if payload = 0 then "" else toString payload

/-- Whether a finite decimal is a whole number. -/
def isIntegral (coefficient : Nat) (exponent : Int) : Bool :=
  0 ≤ exponent || coefficient = 0 ||
    (-exponent ≤ Binary64.decimalLength coefficient &&
      coefficient % Nat.pow 10 (-exponent).toNat = 0)

/-- The integer part of a finite decimal. -/
def integer (negative : Bool) (coefficient : Nat) (exponent : Int) : Int :=
  Binary64.signed negative
    (if 0 ≤ exponent then coefficient * Nat.pow 10 exponent.toNat
    else if Binary64.decimalLength coefficient < -exponent then 0
    else coefficient / Nat.pow 10 (-exponent).toNat)

/-- The nearest number: an integer when the decimal is whole, none for not-a-number. -/
def toNumber? : Decimal → Option Number
  | finite negative c e =>
    if isIntegral c e then some (.int (integer negative c e))
    else some (.float (Binary64.ofDecimal negative ⟨c, e⟩))
  | infinite negative => some (.float (Binary64.infinity negative))
  | notANumber .. => none

/-- The nearest floating-point number, none for a signaling not-a-number. -/
def toFloat? : Decimal → Option Float
  | finite negative c e => some (Binary64.ofDecimal negative ⟨c, e⟩)
  | infinite negative => some (Binary64.infinity negative)
  | notANumber signaling .. => if signaling then none else some Binary64.nan

/-- The exact decimal of a finite binary number `± m · 2 ^ e`. -/
def ofBinary (negative : Bool) (m : Nat) (e : Int) : Decimal :=
  if 0 ≤ e then finite negative (m * Nat.pow 2 e.toNat) 0
  else finite negative (m * Nat.pow 5 (-e).toNat) e

/-- The exact decimal of a number. -/
def ofNumber : Number → Decimal
  | .int n => finite (n < 0) n.natAbs 0
  | .float x =>
    match Binary64.parts x with
    | .finite negative m e => ofBinary negative m e
    | .infinite negative => infinite negative
    | .notANumber => notANumber false false 0 none
  | .nan _ => notANumber false false 0 none

/-- A decimal as it is kept: not-a-number gets an origin, unless it has one. -/
def keptAt (origin : Origin) : Decimal → Decimal
  | notANumber signaling negative payload none =>
    notANumber signaling negative payload (some origin)
  | d => d

/-- Whether two decimals are the same not-a-number. -/
def isSameNaN : Decimal → Decimal → Bool
  | notANumber _ _ _ (some a), notANumber _ _ _ (some b) => a == b
  | _, _ => false

/-- Equality of values; comparing a signaling not-a-number is a fault. -/
def equal : Decimal → Decimal → Except Fault Bool
  | notANumber true .., _ => .error .decimalInvalid
  | _, notANumber true .. => .error .decimalInvalid
  | notANumber .., _ => .ok false
  | _, notANumber .. => .ok false
  | infinite a, infinite b => .ok (a == b)
  | infinite _, finite .. => .ok false
  | finite .., infinite _ => .ok false
  | finite s c e, finite s' c' e' =>
    if c = 0 || c' = 0 then .ok (c == c')
    else if s != s' || adjusted c e != adjusted c' e' then .ok false
    else
      let low := min e e'
      .ok (c * Nat.pow 10 (e - low).toNat == c' * Nat.pow 10 (e' - low).toNat)

/-- The most digits of a rounded decimal. -/
def precision : Nat := 28

/-- The greatest exponent of a decimal. -/
def exponentLimit : Nat := 999999

/-- The greatest distance by which a decimal point is moved. -/
def scaleLimit : Nat := 2 * (exponentLimit + precision)

/-- Rounds `coefficient · 10 ^ exponent` to a multiple of `10 ^ place`, a half away from zero, and
gives the multiple; none when it has more digits than the precision. -/
def roundAt (coefficient : Nat) (exponent place : Int) : Option Nat :=
  if coefficient = 0 then some 0
  else if adjusted coefficient exponent < place - 1 then some 0
  else if (precision : Int) < adjusted coefficient exponent - place + 1 then none
  else
    let q :=
      if place ≤ exponent then coefficient * Nat.pow 10 (exponent - place).toNat
      else
        let unit := Nat.pow 10 (place - exponent).toNat
        (2 * coefficient + unit) / (2 * unit)
    if precision < Binary64.decimalLength q then none else some q

end Decimal

namespace Number

/-- The digits and the power of ten that a finite number is written with. -/
def writtenForm : Number → Bool × Binary64.DecimalForm
  | int n => (n < 0, ⟨n.natAbs, 0⟩)
  | float x =>
    match Binary64.parts x with
    | .finite negative m e => (negative, if m = 0 then ⟨0, 0⟩ else Binary64.shortest m e)
    | _ => (false, ⟨0, 0⟩)
  | nan _ => (false, ⟨0, 0⟩)

/--
Rounds half away from zero to the given number of decimal places, working on the digits that the
number is written with. A result that the precision cannot hold leaves the number as it is.
-/
def roundHalfAway (n : Number) (digits : Int) : Except Fault Number :=
  match n with
  | int _ => if 0 ≤ digits then .ok n else (n.toFloat).bind fun _ => roundWritten n digits
  | float x => if Binary64.isFinite x then roundWritten n digits else .ok n
  | nan _ => .ok n
where
  /-- Rounds the written form of a finite number. -/
  roundWritten (n : Number) (digits : Int) : Except Fault Number :=
    if Decimal.scaleLimit < digits.natAbs then .ok n
    else if (Decimal.exponentLimit : Int) < -digits then .error .decimalOverflow
    else
      let (negative, form) := n.writtenForm
      match Decimal.roundAt form.digits form.exponent (-digits) with
      | none => .ok n
      | some q =>
        .ok (if digits ≤ 0 then int (Decimal.integer negative q (-digits))
          else float (Binary64.ofDecimal negative ⟨q, -digits⟩))

end Number

end RecordCalc
