/-
  Values as they are kept by a record, a pipeline or an operator: each not-a-number in them gets an
  origin, by which it is the same when it is met again. Nothing else of a value changes, and an
  origin once given stays.
-/
import RecordCalc.Value.Basic

namespace RecordCalc.Value

mutual

/-- A value that is kept at an origin. -/
def keptAt (origin : Origin) : Value → Value
  | number n => number (n.keptAt origin)
  | decimal d => decimal (d.keptAt origin)
  | list vs => list (itemsKeptAt origin 0 vs)
  | tuple vs => tuple (itemsKeptAt origin 0 vs)
  | map entries => map (entriesKeptAt origin 0 entries)
  | aggregate a => aggregate { a with value := a.value.map (·.keptAt origin) }
  | cell observations => cell (observationsKeptAt origin 0 observations)
  | observation value timestamp =>
    observation (keptAt (origin.part 0) value) (keptAt (origin.part 1) timestamp)
  | step operator args => step operator (itemsKeptAt origin 0 args)
  | v => v

/-- Items that are kept at an origin from a place on. -/
def itemsKeptAt (origin : Origin) (place : Nat) : List Value → List Value
  | [] => []
  | v :: vs => keptAt (origin.part place) v :: itemsKeptAt origin (place + 1) vs

/-- Entries that are kept at an origin from a place on. -/
def entriesKeptAt (origin : Origin) (place : Nat) :
    List (String × Value) → List (String × Value)
  | [] => []
  | (name, v) :: rest =>
    (name, keptAt (origin.part place) v) :: entriesKeptAt origin (place + 1) rest

/-- Observations that are kept at an origin from a place on. -/
def observationsKeptAt (origin : Origin) (place : Nat) :
    List (Value × Value) → List (Value × Value)
  | [] => []
  | (value, timestamp) :: rest =>
    (keptAt ((origin.part place).part 0) value, keptAt ((origin.part place).part 1) timestamp) ::
      observationsKeptAt origin (place + 1) rest

end

/-- A value as a holder keeps it. -/
def keptBy (holder : Holder) (v : Value) : Value := v.keptAt ⟨holder, []⟩

end RecordCalc.Value
