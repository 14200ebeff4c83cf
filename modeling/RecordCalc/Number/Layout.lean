/-
  How floating-point numbers are written: the shortest digits that read back, positional between
  10 ^ -4 and 10 ^ 16, with an exponent of at least two digits outside.
-/
import RecordCalc.Number.Shortest

namespace RecordCalc.Binary64

/-- The choices in writing a floating-point number. -/
structure Layout where
  /-- Least power of ten of the leading digit that is written positionally. -/
  positionalFrom : Int
  /-- Least power of ten of the leading digit that is written with an exponent. -/
  exponentFrom : Int
  /-- What follows a whole number written positionally. -/
  wholeSuffix : String
  exponentMark : String
  /-- What stands before an exponent that is not negative. -/
  exponentPlus : String
  exponentWidth : Nat
  infinityText : String
  notANumberText : String

/-- The layout of numbers in texts. -/
def standardLayout : Layout := ⟨-4, 16, ".0", "e", "+", 2, "inf", "nan"⟩

/-- A number padded with zeros in front up to a width. -/
def padded (n width : Nat) : String :=
  let s := toString n
  String.ofList (List.replicate (width - s.length) '0') ++ s

/-- Digits with an exponent: one digit, a point where more follow, the exponent with its sign. -/
def Layout.scientific (l : Layout) (digits : List Char) (magnitude : Int) : String :=
  let mantissa :=
    match digits with
    | [] => []
    | [d] => [d]
    | d :: ds => d :: '.' :: ds
  String.ofList mantissa ++ l.exponentMark ++ (if magnitude < 0 then "-" else l.exponentPlus) ++
    padded magnitude.natAbs l.exponentWidth

/-- Digits written positionally, the leading one at the given power of ten. -/
def Layout.positional (l : Layout) (digits : List Char) (magnitude : Int) : String :=
  if magnitude < 0 then
    "0." ++ String.ofList (List.replicate (magnitude.natAbs - 1) '0' ++ digits)
  else
    let whole := magnitude.toNat + 1
    if digits.length ≤ whole then
      String.ofList (digits ++ List.replicate (whole - digits.length) '0') ++ l.wholeSuffix
    else String.ofList (digits.take whole ++ '.' :: digits.drop whole)

/-- A floating-point number in a layout. -/
def Layout.write (l : Layout) (x : Float) : String :=
  match parts x with
  | .notANumber => l.notANumberText
  | .infinite negative => (if negative then "-" else "") ++ l.infinityText
  | .finite negative m e =>
    let form := if m = 0 then ⟨0, 0⟩ else shortest m e
    let digits := (toString form.digits).toList
    let magnitude := form.exponent + digits.length - 1
    (if negative then "-" else "") ++
      if l.positionalFrom ≤ magnitude && magnitude < l.exponentFrom then
        l.positional digits magnitude
      else l.scientific digits magnitude

/-- A floating-point number as a text. -/
def write (x : Float) : String := standardLayout.write x

end RecordCalc.Binary64
