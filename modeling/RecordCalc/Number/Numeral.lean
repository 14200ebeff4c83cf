/-
  Decimal numerals in text: digits of any script, a point, an exponent. A numeral is scanned off the
  front of a text and then read as an exact decimal, whose nearest floating-point number is taken.
-/
import RecordCalc.Number.Shortest
import RecordCalc.Text.Digit
import RecordCalc.Text.Blank

namespace RecordCalc

/-- An unsigned numeral, as it stands in a text. -/
structure Numeral where
  whole : List Char
  /-- The digits after the point, none without a point. -/
  fraction : Option (List Char)
  /-- The mark, sign and digits of the exponent, none without an exponent. -/
  exponent : Option (Char × Option Char × List Char)
deriving DecidableEq, Repr

namespace Numeral

/-- The longest run of digits and what follows it. -/
def scanDigits (cs : List Char) : List Char × List Char :=
  (cs.takeWhile Text.isDigit, cs.dropWhile Text.isDigit)

/-- A sign and what follows it. -/
def scanSign : List Char → Option Char × List Char
  | '+' :: cs => (some '+', cs)
  | '-' :: cs => (some '-', cs)
  | cs => (none, cs)

/-- An exponent, which needs at least one digit, and what follows it. -/
def scanExponent : List Char → Option (Char × Option Char × List Char) × List Char
  | c :: cs =>
    if c = 'e' || c = 'E' then
      let (sign, rest) := scanSign cs
      match scanDigits rest with
      | ([], _) => (none, c :: cs)
      | (ds, rest) => (some (c, sign, ds), rest)
    else (none, c :: cs)
  | [] => (none, [])

/-- Digits around an optional point, at least one of them, and what follows. -/
def scanMantissa (cs : List Char) : Option (List Char × Option (List Char) × List Char) :=
  match scanDigits cs with
  | ([], '.' :: rest) =>
    match scanDigits rest with
    | ([], _) => none
    | (ds, rest) => some ([], some ds, rest)
  | ([], _) => none
  | (whole, '.' :: rest) =>
    let (ds, rest) := scanDigits rest
    some (whole, some ds, rest)
  | (whole, rest) => some (whole, none, rest)

/-- The longest numeral at the front of a text and what follows it. -/
def scan? (cs : List Char) : Option (Numeral × List Char) :=
  match scanMantissa cs with
  | none => none
  | some (whole, fraction, rest) =>
    let (exponent, rest) := scanExponent rest
    some (⟨whole, fraction, exponent⟩, rest)

/-- Whether the numeral is a run of digits and nothing else. -/
def isWhole (n : Numeral) : Bool := n.fraction.isNone && n.exponent.isNone

/-- The characters of a numeral. -/
def toChars (n : Numeral) : List Char :=
  n.whole ++ (match n.fraction with | none => [] | some ds => '.' :: ds) ++
    match n.exponent with
    | none => []
    | some (mark, sign, ds) => mark :: sign.toList ++ ds

/-- The exponent as a number. -/
def exponentValue (n : Numeral) : Int :=
  match n.exponent with
  | none => 0
  | some (_, sign, ds) => Binary64.signed (sign == some '-') (Text.digitsValue ds)

/-- The exact value of the numeral, as digits and a power of ten. -/
def decimal (n : Numeral) : Binary64.DecimalForm :=
  let fraction := n.fraction.getD []
  ⟨Text.digitsValue (n.whole ++ fraction), n.exponentValue - fraction.length⟩

end Numeral

namespace Binary64

/-- How many decimal digits a natural has, one for zero. -/
def decimalLength (n : Nat) : Nat := (Nat.toDigits 10 n).length

/-- The number nearest `± digits · 10 ^ exponent`. Far beyond the range of exponents the answer is
an infinity or a zero at once. -/
def ofDecimal (negative : Bool) (d : DecimalForm) : Float :=
  if d.digits = 0 then zero negative
  else
    let magnitude : Int := d.exponent + decimalLength d.digits
    if 400 < magnitude then infinity negative
    else if magnitude < -400 then zero negative
    else if 0 ≤ d.exponent then ofRatio negative (d.digits * Nat.pow 10 d.exponent.toNat) 1
    else ofRatio negative d.digits (Nat.pow 10 (-d.exponent).toNat)

/-- The digits of a text without the underscores, none when an underscore does not stand between two
digits. -/
def joinDigits (previous : Bool) : List Char → Option (List Char)
  | [] => some []
  | '_' :: c :: cs =>
    if previous && Text.isDigit c then (joinDigits true cs).map (c :: ·) else none
  | c :: cs => if c = '_' then none else (joinDigits (Text.isDigit c) cs).map (c :: ·)

/-- Reads a floating-point number: a numeral with an optional sign, or a word for infinity or
not-a-number, in any letter case. -/
def read? (s : String) : Option Float := do
  let (sign, cs) := Numeral.scanSign (Text.trimChars s.toList)
  let negative := sign == some '-'
  let word := String.ofList (cs.map Char.toLower)
  if word = "inf" || word = "infinity" then return infinity negative
  if word = "nan" then return nan
  let cs ← joinDigits false cs
  match Numeral.scan? cs with
  | some (n, []) => return ofDecimal negative n.decimal
  | _ => none

end Binary64

end RecordCalc
