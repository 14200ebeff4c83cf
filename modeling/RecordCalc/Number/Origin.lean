/-
  Origins of kept values. What a record, a pipeline or an operator keeps can be met again, and then
  it is the same thing and not only an equal one. This matters for not-a-number alone, which equals
  nothing, but is the same as itself.
-/
namespace RecordCalc

/-- What keeps a value. -/
inductive Holder
  /-- A field of a record. -/
  | field (name : String)
  /-- A place among the inputs and results of a pipeline. -/
  | slot (index : Nat)
  /-- An operator whose rule always gives the same value. -/
  | constant (operator : String)
  /-- An operator with an absorbing element. -/
  | absorbing (operator : String)
deriving DecidableEq, Repr

/-- Where a kept value stands: its holder, and the places on the way from there, the last one
first. -/
structure Origin where
  holder : Holder
  path : List Nat
deriving DecidableEq, Repr

/-- The origin of the part at a place. -/
def Origin.part (o : Origin) (place : Nat) : Origin := { o with path := place :: o.path }

end RecordCalc
