/-
  Equality of values. Numbers of all representations, truth values among them, are equal when they
  are the same number; arrays, maps and the other composed values when their parts are. `sameValue`
  tells truth values from numbers. Only a signaling not-a-number cannot be compared. Parts that are
  the same need no comparison.
-/
import RecordCalc.Value.Basic

namespace RecordCalc

namespace Calendar.DateTime

/-- Equality of instants; a datetime with an offset never equals one without. -/
def sameInstant (a b : DateTime) : Bool :=
  a.offset.isSome == b.offset.isSome && a.instant == b.instant

end Calendar.DateTime

namespace Value

/-- A value that compares as a number. -/
inductive Numeric
  | number (n : Number)
  | decimal (d : Decimal)

/-- The value as a number to compare, truth values being 0 and 1. -/
def numeric? : Value → Option Numeric
  | bool b => some (.number (.int (if b then 1 else 0)))
  | number n => some (.number n)
  | decimal d => some (.decimal d)
  | _ => none

/-- Equality of numbers. -/
def Numeric.equal : Numeric → Numeric → Except Fault Bool
  | number a, number b => .ok (a.equal b)
  | number a, decimal b => (Decimal.ofNumber a).equal b
  | decimal a, number b => a.equal (Decimal.ofNumber b)
  | decimal a, decimal b => a.equal b

/-- Whether two parts are the same, so that they count as equal without a comparison. -/
def isSamePart : Value → Value → Bool
  | number a, number b => a.isSameNaN b
  | decimal a, decimal b => a.isSameNaN b
  | _, _ => false

/-- Equality of optional numbers that are parts of other values. -/
def equalNumber? : Option Number → Option Number → Bool
  | some a, some b => a.isSameNaN b || a.equal b
  | none, none => true
  | _, _ => false

/-- Equality of aggregates. -/
def equalAggregate (a b : Aggregate) : Bool :=
  equalNumber? a.value b.value && a.total == b.total && a.nulls == b.nulls &&
    a.inapplicable == b.inapplicable && a.present == b.present && a.applicable == b.applicable &&
    a.certainty == b.certainty

mutual

/-- Equality of two values. -/
def equal : Value → Value → Except Fault Bool
  | bool a, w => equalNumeric (bool a) w
  | number a, w => equalNumeric (number a) w
  | decimal a, w => equalNumeric (decimal a) w
  | null, null => .ok true
  | unknown, unknown => .ok true
  | text a, text b => .ok (a == b)
  | date a, date b => .ok (a == b)
  | datetime a, datetime b => .ok (a.sameInstant b)
  | list a, list b => if a.length = b.length then equalItems a b else .ok false
  | tuple a, tuple b => equalItems a b
  | map a, map b => if a.length = b.length then equalEntries a b else .ok false
  | mark k r, mark k' r' => .ok (k == k' && r == r')
  | aggregate a, aggregate b => .ok (equalAggregate a b)
  | cell a, cell b => if a.length = b.length then equalObservations a b else .ok false
  | observation v t, observation v' t' => do
    if ← (if isSamePart v v' then .ok true else equal v v') then
      if isSamePart t t' then return true else equal t t'
    else return false
  | stepRef i, stepRef j => .ok (i == j)
  | step o a, step o' a' => if o == o' then equalItems a a' else .ok false
  | _, _ => .ok false

/-- Equality of a value that compares as a number with any value. -/
def equalNumeric (v w : Value) : Except Fault Bool :=
  match v.numeric?, w.numeric? with
  | some a, some b => a.equal b
  | _, _ => .ok false

/-- Equality of items in turn, up to the first that differ. -/
def equalItems : List Value → List Value → Except Fault Bool
  | [], [] => .ok true
  | v :: vs, w :: ws => do
    if ← (if isSamePart v w then .ok true else equal v w) then equalItems vs ws else return false
  | _, _ => .ok false

/-- Whether every entry has an equal one of the same name. -/
def equalEntries : List (String × Value) → List (String × Value) → Except Fault Bool
  | [], _ => .ok true
  | (name, v) :: rest, others =>
    match lookup others name with
    | none => .ok false
    | some w => do
      if ← (if isSamePart v w then .ok true else equal v w) then equalEntries rest others
      else return false

/-- Equality of observations in turn. -/
def equalObservations : List (Value × Value) → List (Value × Value) → Except Fault Bool
  | [], [] => .ok true
  | (v, t) :: rest, (v', t') :: rest' => do
    if ← (if isSamePart v v' then .ok true else equal v v') then
      if ← (if isSamePart t t' then .ok true else equal t t') then equalObservations rest rest'
      else return false
    else return false
  | _, _ => .ok false

end

/-- Equality that also tells truth values from numbers. -/
def sameValue (a b : Value) : Except Fault Bool :=
  match a, b with
  | bool x, bool y => .ok (x == y)
  | bool _, _ | _, bool _ => .ok false
  | unknown, w => .ok w.isUnknown
  | v, unknown => .ok v.isUnknown
  | v, w => if v.typeOf = w.typeOf then v.equal w else .ok false

end Value

end RecordCalc
