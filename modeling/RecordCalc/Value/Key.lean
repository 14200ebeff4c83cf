/-
  Values as keys. What can change has no place among keys, nor has a value with such a part, nor a
  signaling not-a-number. Keys are the same when they are equal values.
-/
import RecordCalc.Value.Equality

namespace RecordCalc

namespace Value

/-- The fault of a key of a sort that can change. -/
def changeable (v : Value) : Fault := .declared .sort ("unhashable type: '" ++ v.kindName ++ "'")

mutual

/-- Why a value is no key, none when it is one. -/
def keyFault? : Value → Option Fault
  | list vs => some (changeable (list vs))
  | map entries => some (changeable (map entries))
  | cell observations => some (changeable (cell observations))
  | decimal (.notANumber true ..) =>
    some (.declared .sort "Cannot hash a signaling NaN value")
  | tuple vs => keyFaults? vs
  | observation value timestamp => (keyFault? value).or (keyFault? timestamp)
  | step _ args => keyFaults? args
  | _ => none

/-- Why the first value that is no key is none. -/
def keyFaults? : List Value → Option Fault
  | [] => none
  | v :: vs => (keyFault? v).or (keyFaults? vs)

end

end Value

/-- A key. -/
structure Key where
  value : Value
  keyFault?_eq_none : value.keyFault? = none

namespace Key

/-- A value as a key. -/
def ofValue (v : Value) : Except Fault Key :=
  match h : v.keyFault? with
  | none => .ok ⟨v, h⟩
  | some f => .error f

instance : BEq Key := ⟨fun a b => (a.value.equal b.value).toOption.getD false⟩

end Key

end RecordCalc
