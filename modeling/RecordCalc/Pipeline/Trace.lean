/-
  Traced runs of pipelines. The trace has an entry for the inputs, one for each step, which is
  simplified where a law allows it and evaluated otherwise, and one for the result. A step that
  fails is recorded and ends the run.
-/
import RecordCalc.Pipeline.Simplify
import RecordCalc.Pipeline.Step
import RecordCalc.Value.Convert

namespace RecordCalc

/-- What an entry of a trace tells. -/
inductive EntryKind
  | input
  | simplification (rule : SimplifyRule)
  | evaluation
  | error (text : String)
  | output
deriving DecidableEq, Repr

/-- The name of a kind of entry. -/
def EntryKind.name : EntryKind → String
  | input => "input"
  | simplification _ => "simplification"
  | evaluation => "evaluation"
  | error _ => "error"
  | output => "output"

/-- An entry of a trace. -/
structure TraceEntry where
  step : Nat
  kind : EntryKind
  description : String
  /-- The operator of the step as the step gives it, nothing where there is none. -/
  operator : Value
  args : List Value
  result : Value

/-- A trace with the inputs and results. -/
structure Trace where
  entries : List TraceEntry
  values : List Value

namespace Trace

/-- The last value, nothing without any value. -/
def result (t : Trace) : Value := t.values.getLast?.getD .null

/-- Whether a step failed. -/
def failed (t : Trace) : Bool :=
  t.entries.any fun e => match e.kind with | .error _ => true | _ => false

/-- A value in a description: texts in double quotes as they are. -/
def display : Value → Except Fault String
  | .text s => .ok ("\"" ++ s ++ "\"")
  | .null => .ok "NULL"
  | v => v.toText

/-- The entry of the inputs. -/
def inputEntry (inputs : List Value) : Except Fault TraceEntry := do
  let texts ← inputs.mapM display
  return ⟨0, .input, "Inputs: [" ++ Text.join ", " texts ++ "]", .null, inputs, .null⟩

/-- The operator that the entry of a malformed step names. -/
def operatorOf : Value → Value
  | .text s => .text s
  | .step operator _ => .text operator
  | .map entries => Step.namedOperator entries
  | _ => .null

/-- The entry of a step that failed. -/
def errorEntry (number : Nat) (operator : Value) (args : List Value) (f : Failure) : TraceEntry :=
  ⟨number, .error f.message, "Step " ++ toString number ++ " failed: " ++ f.message, operator, args,
    .null⟩

/-- A step ready to run: its operator and its arguments. -/
def prepare (r : Registry) (raw : Value) (values : List Value) :
    Except Failure (Operator × List Value) := do
  let s ← Step.ofValue raw
  let o ← r.get s.operator
  Step.checkCount o s.args.length
  return (o, ← s.resolve values)

/-- Whether a failure to prepare a step is recorded in the trace. -/
def isRecorded (f : Failure) : Bool :=
  f.isKind .composition || f.isKind .evaluation || f.isKind .registry

/-- The outcome of a step: its entry, and its value unless it failed. -/
def runStep (r : Registry) (number : Nat) (raw : Value) (values : List Value) :
    Run (TraceEntry × Option Value) :=
  match prepare r raw values with
  | .error f =>
    if isRecorded f then .done (errorEntry number (operatorOf raw) [] f, none) else .fail f
  | .ok (o, args) => do
    match ← Run.ofFaulty (o.simplify? args) with
    | some s =>
      let call ← Run.ofFaulty (o.callText args)
      let shown ← Run.ofFaulty (display s.result)
      let text := call ++ " simplifies to " ++ shown ++ " (" ++ s.rule.name ++ ")"
      return (⟨number, .simplification s.rule, text, .text o.id, args, s.result⟩, some s.result)
    | none =>
      let applied := Run.applyRule o args
      match applied.outcome with
      | .error f =>
        if f.isKind .evaluation then
          ⟨.ok (errorEntry number (.text o.id) args f, none), applied.uses⟩
        else ⟨.error f, applied.uses⟩
      | .ok v =>
        Run.andThen ⟨.ok (), applied.uses⟩ fun _ => do
          let call ← Run.ofFaulty (o.callText args)
          let shown ← Run.ofFaulty (display v)
          return (⟨number, .evaluation, call ++ " = " ++ shown, .text o.id, args, v⟩, some v)

/-- The entries and values after some steps, up to the first that fails. -/
def runSteps (r : Registry) (number : Nat) (t : Trace) : List Value → Run Trace
  | [] => .done t
  | raw :: rest => do
    match ← runStep r number raw t.values with
    | (entry, some v) => runSteps r (number + 1) ⟨t.entries ++ [entry], t.values ++ [v]⟩ rest
    | (entry, none) => return ⟨t.entries ++ [entry], t.values⟩

/-- The trace with the entry of its result. -/
def close (t : Trace) : Except Fault Trace := do
  let text := "Result: " ++ (← display t.result)
  return ⟨t.entries ++ [⟨t.entries.length, .output, text, .null, [], t.result⟩], t.values⟩

/-- The traced run of some steps on some inputs. -/
def run (r : Registry) (steps inputs : List Value) : Run Trace := do
  let first ← Run.ofFaulty (inputEntry inputs)
  let t ← runSteps r 1 ⟨[first], inputs⟩ steps
  Run.ofFaulty t.close

end Trace

end RecordCalc
