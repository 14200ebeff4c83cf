/-
  Building rules from functions of a fixed number of arguments, and the flat list of values that
  functions of any number of arguments see through nested arrays.
-/
import RecordCalc.Operator.Basic
import RecordCalc.Value.Compare
import RecordCalc.Value.Kept

namespace RecordCalc

namespace Rule

/-- The failure of a rule that gets fewer or more arguments than it takes. -/
def wrongCount : Failure := .fault (.missingArgument true)

/-- A computation that may come to a fault, as one that may fail. -/
def lift (r : Except Fault Value) : Except Failure Value :=
  match r with
  | .ok v => .ok v
  | .error f => .error (.fault f)

/-- A rule without arguments. -/
def nullary (v : Value) : Rule := fun _ => .ok v

/-- The rule of an operator that keeps one value and gives it for all arguments. -/
def constant (operator : String) (v : Value) : Rule :=
  fun _ => .ok (v.keptBy (.constant operator))

/-- A rule of one argument. -/
def unary (f : Value → Except Fault Value) : Rule
  | [a] => lift (f a)
  | _ => .error wrongCount

/-- A rule of two arguments. -/
def binary (f : Value → Value → Except Fault Value) : Rule
  | [a, b] => lift (f a b)
  | _ => .error wrongCount

/-- A rule of one or two arguments, the second with a default. -/
def binaryWith (default : Value) (f : Value → Value → Except Fault Value) : Rule
  | [a] => lift (f a default)
  | [a, b] => lift (f a b)
  | _ => .error wrongCount

/-- A rule of three arguments. -/
def ternary (f : Value → Value → Value → Except Fault Value) : Rule
  | [a, b, c] => lift (f a b c)
  | _ => .error wrongCount

/-- A rule of two or three arguments, the third with a default. -/
def ternaryWith (default : Value) (f : Value → Value → Value → Except Fault Value) : Rule
  | [a, b] => lift (f a b default)
  | [a, b, c] => lift (f a b c)
  | _ => .error wrongCount

/-- A rule of any number of arguments. -/
def many (f : List Value → Except Fault Value) : Rule := fun args => lift (f args)

end Rule

namespace Value

mutual

/-- The values that are no arrays within a value, from left to right. -/
def flat : Value → List Value
  | list vs => flatten vs
  | tuple vs => flatten vs
  | v => [v]

/-- The values that are no arrays within a list, from left to right. -/
def flatten : List Value → List Value
  | [] => []
  | v :: vs => v.flat ++ flatten vs

end

/-- The number that a value adds to an aggregate, none for absent values and truth values. -/
def aggregated? : Value → Option Number
  | bool _ => none
  | list _ | tuple _ => none
  | v => v.toNumber?

/-- The numbers among the flattened values. -/
def numbers (vs : List Value) : List Number := (flatten vs).filterMap aggregated?

end Value

end RecordCalc
