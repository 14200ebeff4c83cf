/-
  Chains of operators by type: whether the output of one operator may feed the next one's first
  argument.
-/
import RecordCalc.Operator.Registry
import RecordCalc.Value.Convert

namespace RecordCalc

/-- Why one operator cannot feed another. -/
inductive ChainIssue
  | unknownOperator (id : String)
  | takesNoArguments (id : String)
  | cannotConvert (source target : ValueType)
deriving DecidableEq, Repr

/-- The words of an issue. -/
def ChainIssue.text : ChainIssue → String
  | unknownOperator id => "Unknown operator: " ++ id
  | takesNoArguments id => id ++ " takes no arguments"
  | cannotConvert source target => "Cannot convert " ++ source.name ++ " to " ++ target.name

/-- A broken link of a chain, between the operator at a place and the next. -/
structure ChainViolation where
  position : Nat
  source : String
  target : String
  issue : ChainIssue
deriving DecidableEq, Repr

namespace Registry

/-- Why the output of one operator cannot feed another, none when it can. -/
def chainIssue? (r : Registry) (source target : String) : Option ChainIssue :=
  match r.find? source, r.find? target with
  | none, _ => some (.unknownOperator source)
  | _, none => some (.unknownOperator target)
  | some a, some b =>
    if b.isVariadic then none
    else
      match b.firstInput? with
      | none => some (.takesNoArguments b.id)
      | some expected =>
        if a.output.canCoerce expected then none else some (.cannotConvert a.output expected)

/-- The broken links of a chain whose first operator has the given place. -/
def violationsFrom (r : Registry) (position : Nat) : List String → List ChainViolation
  | a :: b :: rest =>
    ((r.chainIssue? a b).map (⟨position, a, b, ·⟩)).toList ++
      violationsFrom r (position + 1) (b :: rest)
  | _ => []

/-- The broken links of a chain. -/
def violations (r : Registry) (ids : List String) : List ChainViolation := r.violationsFrom 0 ids

end Registry

end RecordCalc
