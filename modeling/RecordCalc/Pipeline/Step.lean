/-
  Steps of pipelines. A step names an operator and its arguments; an argument may refer to an
  earlier value by its place among the inputs and the results so far. A composed pipeline checks all
  its steps before it runs.
-/
import RecordCalc.Evaluation.Run
import RecordCalc.Value.Kept
import RecordCalc.Value.Shown

namespace RecordCalc

/-- A step of a pipeline. -/
structure Step where
  operator : String
  args : List Value

namespace Step

/-- The items of a value that is read item by item: texts by character, maps by name. -/
def itemsOf (v : Value) : Except Fault (List Value) :=
  match v with
  | .list vs | .tuple vs => .ok vs
  | .text s => .ok (s.toList.map fun c => .text (String.ofList [c]))
  | .map entries => .ok (entries.map fun e => .text e.1)
  | v => .error (.notIterable v.familyName)

/-- A fault as a failure. -/
def faulty (r : Except Fault α) : Except Failure α :=
  match r with
  | .ok a => .ok a
  | .error f => .error (.fault f)

/-- The operator that a map names, nothing when it names none. -/
def namedOperator (entries : List (String × Value)) : Value :=
  match Value.lookup entries "operator_id" with
  | some v => v
  | none => (Value.lookup entries "id").getD .null

/-- The step that a value describes: a step, or a map of an operator and its arguments. -/
def ofValue (v : Value) : Except Failure Step :=
  match v with
  | .step operator args => .ok ⟨operator, args⟩
  | .map entries =>
    match namedOperator entries with
    | .text operator => do
      let args ← faulty (itemsOf ((Value.lookup entries "args").getD (.tuple [])))
      return ⟨operator, args⟩
    | _ => do throw (.stepWithoutOperator (← faulty v.shown))
  | v => do throw (.notAStep (← faulty v.shown))

/-- The index that an argument refers to: a reference, or a map with nothing but a reference. A
truth value counts as 0 or 1. -/
def reference? : Value → Option Value
  | .stepRef index => some (.int index)
  | .map [("ref", .number (.int n))] => some (.int n)
  | .map [("ref", .bool b)] => some (.bool b)
  | _ => none

/-- The place that a reference points to, none outside the values. -/
def place? (reference : Value) (count : Nat) : Option Nat :=
  let n : Int :=
    match reference with
    | .number (.int n) => n
    | .bool true => 1
    | _ => 0
  if 0 ≤ n && n < count then some n.toNat else none

/-- An argument with its reference resolved among the values; the failure writes the index. -/
def resolveArgument (operator : String) (values : List Value) (arg : Value) :
    Except Failure Value :=
  match reference? arg with
  | none => .ok arg
  | some reference =>
    match place? reference values.length with
    | some i => .ok ((values.getD i .null).keptBy (.slot i))
    | none => do
      let _ ← faulty reference.shown
      throw (.unavailableReference operator reference values.length)

/-- The arguments with their references resolved among the values. -/
def resolve (s : Step) (values : List Value) : Except Failure (List Value) :=
  s.args.mapM (resolveArgument s.operator values)

/-- Checks the number of arguments. -/
def checkCount (o : Operator) (count : Nat) : Except Failure Unit :=
  if o.accepts count then .ok () else .error (.arity o.id o.arityText count)

end Step

/-- A pipeline whose steps have been checked. -/
structure Pipeline where
  steps : List (Step × Operator)

namespace Pipeline

/-- The pipeline of some steps: all must be steps, name operators, and fit them. -/
def compose (r : Registry) (steps : List Value) : Except Failure Pipeline := do
  let steps ← steps.mapM Step.ofValue
  let operators ← steps.mapM fun s => r.get s.operator
  let pairs := steps.zip operators
  let _ ← pairs.mapM fun (s, o) => Step.checkCount o s.args.length
  return ⟨pairs⟩

/-- The values after some steps, appended to those before. -/
def valuesAfter (values : List Value) : List (Step × Operator) → Run (List Value)
  | [] => .done values
  | (s, o) :: rest => do
    let args ← Run.ofExcept (s.resolve values)
    let v ← Run.applyRule o args
    valuesAfter (values ++ [v]) rest

/-- The last value of a run on some inputs, nothing without any value. -/
def run (p : Pipeline) (inputs : List Value) : Run Value := do
  return (← valuesAfter inputs p.steps).getLast?.getD .null

end Pipeline

end RecordCalc
