/-
  The registry of the built-in operators. It is frozen; its clone may be extended.
-/
import RecordCalc.Operator.Absence
import RecordCalc.Operator.Aggregates
import RecordCalc.Operator.Dates
import RecordCalc.Operator.Logic
import RecordCalc.Operator.Registry
import RecordCalc.Operator.Texts

namespace RecordCalc

open Calendar (DateTime)

/-- The built-in operators, for the given moment as the present. -/
def builtInOperators (now : DateTime) : List Operator :=
  Arithmetic.operators ++ Logic.operators ++ Texts.operators ++ Aggregates.operators ++
    Dates.operators now ++ Absence.typeOperators ++ Absence.nullOperators ++
    Aggregates.trackedOperators

/-- The registry of the built-in operators. -/
def Registry.builtIn (now : DateTime) : Registry :=
  ((Registry.ofList (builtInOperators now)).toOption.getD Registry.empty).freeze

end RecordCalc
