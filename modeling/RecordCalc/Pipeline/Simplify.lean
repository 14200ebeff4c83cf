/-
  Simplification of a call by the laws of its operator: an identity element gives way to the other
  argument, an absorbing element wins, and two equal arguments are one.
-/
import RecordCalc.Operator.Registry
import RecordCalc.Value.Equality
import RecordCalc.Value.Kept

namespace RecordCalc

/-- Rules of simplification, in the order in which they are tried. -/
inductive SimplifyRule
  | identity | absorbing | idempotent
deriving DecidableEq, Repr

/-- The name of a rule. -/
def SimplifyRule.name : SimplifyRule → String
  | identity => "identity"
  | absorbing => "absorbing"
  | idempotent => "idempotent"

/-- What a call simplifies to and by which rule. -/
structure Simplification where
  result : Value
  rule : SimplifyRule

namespace Operator

/-- The call simplified by its identity element, which stands right, or left where both sides do. -/
def byIdentity (o : Operator) (args : List Value) : Except Fault (Option Value) :=
  match o.obeys .identity, args with
  | true, [a, b] => do
    if ← b.sameValue o.identity then return some a
    if o.identitySide = .both then
      if ← a.sameValue o.identity then return some b
    return none
  | _, _ => .ok none

/-- Whether some argument is the same as a value. -/
def anySame (v : Value) : List Value → Except Fault Bool
  | [] => .ok false
  | a :: args => do if ← a.sameValue v then return true else anySame v args

/-- The absorbing element as the operator keeps it. -/
def keptAbsorbing (o : Operator) : Value := o.absorbing.keptBy (.absorbing o.id)

/-- The call simplified by its absorbing element. -/
def byAbsorbing (o : Operator) (args : List Value) : Except Fault (Option Value) := do
  if o.obeys .absorbing then
    if ← anySame o.keptAbsorbing args then return some o.keptAbsorbing
  return none

/-- The call of an idempotent operator that combines two equal arguments. -/
def byIdempotence (o : Operator) (args : List Value) : Except Fault (Option Value) :=
  match o.obeys .idempotent && o.obeys .associative, args with
  | true, [a, b] => do if ← a.sameValue b then return some a else return none
  | _, _ => .ok none

/-- The call simplified by the first rule that applies. -/
def simplify? (o : Operator) (args : List Value) : Except Fault (Option Simplification) := do
  if let some v ← o.byIdentity args then return some ⟨v, .identity⟩
  if let some v ← o.byAbsorbing args then return some ⟨v, .absorbing⟩
  if let some v ← o.byIdempotence args then return some ⟨v, .idempotent⟩
  return none

end Operator

/-- The simplification of a call by id; a call of no operator stays as it is. -/
def Registry.simplify? (r : Registry) (id : String) (args : List Value) :
    Except Fault (Option Simplification) :=
  match r.find? id with
  | none => .ok none
  | some o => o.simplify? args

end RecordCalc
