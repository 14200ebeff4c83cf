/-
  Conversions between the types of values. Each is total up to the limit on written digits. The
  strict form of a conversion gives no result where the other gives a zero or an empty value.
-/
import RecordCalc.Calendar.Reader
import RecordCalc.Text.Case
import RecordCalc.Value.Shown

namespace RecordCalc

open Calendar (Date DateTime)

namespace Number

/-- A numeral with an optional sign, and whether the sign is a minus; a line feed may end the
text. -/
def scanSigned? (cs : List Char) : Option (Numeral × Bool) :=
  let (sign, cs) := Numeral.scanSign cs
  match Numeral.scan? cs with
  | some (n, []) | some (n, ['\n']) => some (n, sign == some '-')
  | _ => none

/-- The number of a numeral: an integer for a run of digits within the limit. -/
def ofNumeral (n : Numeral) (negative : Bool) : Number :=
  if n.isWhole && n.whole.length ≤ Fault.digitLimit then
    int (Binary64.signed negative (Text.digitsValue n.whole))
  else float (Binary64.ofDecimal negative n.decimal)

/-- Reads a number from text; commas and the blanks at both ends do not count. -/
def read? (s : String) : Option Number :=
  (scanSigned? ((Text.trimChars s.toList).filter (· != ','))).map fun (n, negative) =>
    ofNumeral n negative

end Number

namespace Value

/-! ## To a number -/

mutual

/-- A value as a number, none where it has none; never not-a-number. -/
def toNumber? : Value → Option Number
  | bool b => some (.int (if b then 1 else 0))
  | number (.int n) => some (.int n)
  | number (.float x) => if Binary64.isNaN x then none else some (.float x)
  | number (.nan _) => none
  | decimal d => d.toNumber?
  | date d => some (.float (DateTime.ofDate d).withOffset.timestamp)
  | datetime t => some (.float t.withOffset.timestamp)
  | text s => Number.read? s
  | list vs => loneNumber? vs
  | tuple vs => loneNumber? vs
  | _ => none

/-- The number of the single item of an array. -/
def loneNumber? : List Value → Option Number
  | [v] => toNumber? v
  | _ => none

end

/-- A value as a number, zero where it has none. -/
def toNumber (v : Value) : Number := v.toNumber?.getD (.int 0)

/-- A value as an integer, without its fraction; `default` where it has none. -/
def toInteger (v : Value) (default : Int) : Int :=
  match v.toNumber? with
  | some (.int n) => n
  | some (.float x) => (Binary64.trunc? x).getD default
  | some (.nan _) | none => default

/-! ## To text -/

mutual

/-- A value as text; absent values are empty. -/
def toText : Value → Except Fault String
  | unknown => .ok "UNKNOWN"
  | null | mark .. => .ok ""
  | text s => .ok s
  | bool b => .ok (if b then "TRUE" else "FALSE")
  | number n => n.text
  | date d => .ok d.iso
  | datetime t => .ok t.iso
  | list vs => Text.join ", " <$> presentTexts vs
  | tuple vs => Text.join ", " <$> presentTexts vs
  | v => v.plain

/-- The texts of the values that are not absent. -/
def presentTexts : List Value → Except Fault (List String)
  | [] => .ok []
  | v :: vs => do
    if v.isAbsent true then presentTexts vs else return (← toText v) :: (← presentTexts vs)

end

/-- A value as text, none for nothing and marks. -/
def toText? (v : Value) : Except Fault (Option String) :=
  match v with
  | null | mark .. => .ok none
  | v => some <$> v.toText

/-! ## To a truth value -/

/-- The words that count as false. -/
def falseWords : List String := ["false", "0"]

/-- A value as a truth value. -/
def toBoolean (v : Value) : Bool :=
  if v.isAbsent true then false
  else
    match v with
    | unknown => false
    | bool b => b
    | number _ | decimal _ => (v.toNumber?.map (!·.isZero)).getD false
    | text s => !falseWords.contains (Text.lower (Text.trim s))
    | list vs | tuple vs => !vs.isEmpty
    | _ => true

/-- A value as a truth value, none for absent values and for the third truth value. -/
def toBoolean? (v : Value) : Option Bool :=
  if v.isUnknown || v.isAbsent true then none else some v.toBoolean

/-! ## To a date -/

/-- A date with or without a time of the day. -/
inductive DateLike
  | date (d : Date)
  | datetime (t : DateTime)

/-- A date as a value. -/
def DateLike.toValue : DateLike → Value
  | .date d => .date d
  | .datetime t => .datetime t

/-- Reads a date in one of the patterns, or else a datetime in an ISO form. -/
def readDate? (s : String) : Option DateLike :=
  let s := Text.trim s
  match Date.read? s with
  | some d => some (.date d)
  | none => (DateTime.readIso? s).map .datetime

/-- A value as a date, none where it has none; a number counts the seconds since the epoch. -/
def toDate? : Value → Option DateLike
  | date d => some (.date d)
  | datetime t => some (.datetime t)
  | number n =>
    match n.toFloat with
    | .ok x => (DateTime.ofTimestamp? x).map .datetime
    | .error _ => none
  | decimal d => (d.toFloat?.bind DateTime.ofTimestamp?).map .datetime
  | text s => readDate? s
  | _ => none

/-- A value as a datetime; a date is its midnight. -/
def toDateTime? (v : Value) : Option DateTime :=
  v.toDate?.map fun
    | .date d => .ofDate d
    | .datetime t => t

/-! ## To an array -/

/-- A value as the items of an array; absent values are empty and any other value stands alone. -/
def toItems : Value → List Value
  | list vs | tuple vs => vs
  | null | mark .. => []
  | v => [v]

/-! ## To a declared type -/

/-- A value converted to a type; `any` and `null` leave it as it is. -/
def coerce (v : Value) (target : ValueType) (strict : Bool) : Except Fault Value :=
  match target with
  | .number => .ok (if strict then ofNumber? v.toNumber? else number v.toNumber)
  | .text => do
    if strict then return ((← v.toText?).map text).getD null else return text (← v.toText)
  | .boolean => .ok (if strict then (v.toBoolean?.map bool).getD null else bool v.toBoolean)
  | .date => .ok ((v.toDate?.map DateLike.toValue).getD null)
  | .array => .ok (list v.toItems)
  | .null | .any => .ok v

end Value

namespace ValueType

/-- The types that values of a type may be fed to, its own and `any` apart. -/
def targets : ValueType → List ValueType
  | number => [text, boolean]
  | text => [boolean]
  | boolean => [number, text]
  | date => [number, text]
  | array => [text]
  | null => [number, text, boolean, array, date]
  | any => []

/-- Whether values of one type may be fed where another is expected. -/
def canCoerce (source target : ValueType) : Bool :=
  source == target || target == any || source == any || source.targets.contains target

end ValueType

end RecordCalc
