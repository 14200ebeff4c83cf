/-
  Runs: computations that end in a value or a failure and note the rules that they apply, in order,
  each with its arguments.
-/
import RecordCalc.Operator.Registry

namespace RecordCalc

/-- An application of the rule of an operator. -/
structure RuleUse where
  operator : String
  args : List Value

/-- What a computation came to and the rules it applied. -/
structure Run (α : Type) where
  outcome : Except Failure α
  uses : List RuleUse

namespace Run

/-- A run that ends at once. -/
def done (a : α) : Run α := ⟨.ok a, []⟩

/-- A run that fails at once. -/
def fail (f : Failure) : Run α := ⟨.error f, []⟩

/-- A run that goes on with the value of another. -/
def andThen (r : Run α) (f : α → Run β) : Run β :=
  match r.outcome with
  | .ok a =>
    let s := f a
    ⟨s.outcome, r.uses ++ s.uses⟩
  | .error e => ⟨.error e, r.uses⟩

instance : Monad Run where
  pure := done
  bind := andThen

/-- A computation that applies no rule. -/
def ofExcept (r : Except Failure α) : Run α := ⟨r, []⟩

/-- A computation that may come to a fault and applies no rule. -/
def ofFaulty (r : Except Fault α) : Run α :=
  match r with
  | .ok a => done a
  | .error f => fail (.fault f)

/-- The outcome of a rule for its callers: a fault that operators answer for becomes their
failure. -/
def guarded (o : Operator) (r : Except Failure Value) : Except Failure Value :=
  match r with
  | .error (.fault f) =>
    if f.kind.isOperatorFault then .error (.ruleFault o.displayName o.id f) else .error (.fault f)
  | r => r

/-- Applies the rule of an operator. -/
def applyRule (o : Operator) (args : List Value) : Run Value :=
  ⟨guarded o (o.rule args), [⟨o.id, args⟩]⟩

end Run

end RecordCalc
