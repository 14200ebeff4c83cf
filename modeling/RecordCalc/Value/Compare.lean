/-
  Comparison of values in formulas, and three-valued logic. Numbers compare as numbers, also with
  texts that read as numbers, and dates as instants; an absent value equals absent values alone.
-/
import RecordCalc.Value.Convert
import RecordCalc.Value.Equality

namespace RecordCalc

open Calendar (DateTime)

namespace Value

/-- Two values as datetimes that can be compared: one without an offset gets that of universal time
when the other has one. -/
def datetimePair? (v w : Value) : Option (DateTime × DateTime) := do
  let a ← v.toDateTime?
  let b ← w.toDateTime?
  if a.offset.isSome == b.offset.isSome then return (a, b)
  else return (a.withOffset, b.withOffset)

/-- Equality in formulas. -/
def equals (v w : Value) : Except Fault Bool :=
  if v.isAbsent true || w.isAbsent true then .ok (v.isAbsent true && w.isAbsent true)
  else if v.isUnknown || w.isUnknown then .ok (v.isUnknown && w.isUnknown)
  else if v.isNumeric || w.isNumeric then
    .ok (match v.toNumber?, w.toNumber? with
      | some a, some b => a.equal b
      | _, _ => false)
  else if v.isDate || w.isDate then
    .ok (match datetimePair? v w with
      | some (a, b) => a.instant == b.instant
      | none => false)
  else v.equal w

/-- The order of two texts by code points. -/
def compareTexts (a b : String) : Ordering := if a < b then .lt else if b < a then .gt else .eq

/-- The order of two values: texts as texts, dates as instants, everything else as numbers. -/
def order (v w : Value) : Ordering :=
  let byNumber := v.toNumber.compare w.toNumber
  match v, w with
  | text a, text b => compareTexts a b
  | v, w =>
    if v.isDate || w.isDate then
      match datetimePair? v w with
      | some (a, b) => compare a.instant b.instant
      | none => byNumber
    else byNumber

end Value

/-- The truth values of three-valued logic. -/
inductive Truth
  | no | unknown | yes
deriving DecidableEq, Repr

namespace Truth

/-- A truth value of two-valued logic. -/
def ofBool (b : Bool) : Truth := if b then yes else no

/-- The truth value as a value. -/
def toValue : Truth → Value
  | no => .bool false
  | unknown => .unknown
  | yes => .bool true

/-- Negation. -/
def not : Truth → Truth
  | no => yes
  | unknown => unknown
  | yes => no

/-- Conjunction: the least of both. -/
def and : Truth → Truth → Truth
  | no, _ | _, no => no
  | unknown, _ | _, unknown => unknown
  | yes, yes => yes

/-- Disjunction: the greatest of both. -/
def or : Truth → Truth → Truth
  | yes, _ | _, yes => yes
  | unknown, _ | _, unknown => unknown
  | no, no => no

/-- Conjunction of a list. -/
def all (ts : List Truth) : Truth := ts.foldr and yes

/-- Disjunction of a list. -/
def any (ts : List Truth) : Truth := ts.foldr or no

end Truth

/-- The truth value of a value, unknown when the value is missing. -/
def Value.truth (v : Value) (emptyText : Bool) : Truth :=
  if v.isUnknown || v.isAbsent emptyText then .unknown else .ofBool v.toBoolean

end RecordCalc
