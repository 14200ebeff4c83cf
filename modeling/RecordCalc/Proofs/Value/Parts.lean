import RecordCalc.Value.Basic

/-
  The parts of a value: the value itself and the parts of the values that it holds (`HasPart`). Two
  kinds of parts stand in the way of what is done with whole values: an integer with more digits
  than are written, and a decimal not-a-number that signals when it is compared.
-/

namespace RecordCalc.Value

/-- The values that a value holds. -/
def held : Value → List Value
  | list vs | tuple vs | step _ vs => vs
  | map entries => entries.map (·.2)
  | cell observations => observations.flatMap fun o => [o.1, o.2]
  | observation value timestamp => [value, timestamp]
  | _ => []

/-- Some part of a value has a property. -/
inductive HasPart (P : Value → Prop) : Value → Prop
  | self {v : Value} : P v → HasPart P v
  | held {v w : Value} : w ∈ v.held → HasPart P w → HasPart P v

theorem hasPart_iff {P : Value → Prop} {v : Value} :
    HasPart P v ↔ P v ∨ ∃ w ∈ v.held, HasPart P w := by
  constructor
  · rintro (h | ⟨hw, h⟩)
    · exact .inl h
    · exact .inr ⟨_, hw, h⟩
  · rintro (h | ⟨w, hw, h⟩)
    · exact .self h
    · exact .held hw h

/-- A value that does not have the property itself has it where it holds others. -/
theorem hasPart_held {P : Value → Prop} {v : Value} (h : ¬ P v) :
    HasPart P v ↔ ∃ w ∈ v.held, HasPart P w := by
  rw [hasPart_iff]
  exact or_iff_right h

/-- A value that holds no others has just itself as a part. -/
theorem hasPart_of_held_nil {P : Value → Prop} {v : Value} (h : v.held = []) :
    HasPart P v ↔ P v := by
  rw [hasPart_iff, h]
  simp

theorem not_hasPart {P : Value → Prop} {v : Value} (hheld : v.held = []) (h : ¬ P v) :
    ¬ HasPart P v := mt (hasPart_of_held_nil hheld).1 h

/-- What is a part of a value is a part of one that holds as much. -/
theorem HasPart.of_subset {P : Value → Prop} {v w : Value} (h : HasPart P v) (hself : ¬ P v)
    (hheld : v.held ⊆ w.held) : HasPart P w := by
  obtain ⟨u, hu, h⟩ := (hasPart_iff.1 h).resolve_left hself
  exact .held (hheld hu) h

/-- An integer has more digits than are written. -/
def IsLong (n : Int) : Prop := Nat.pow 10 Fault.digitLimit ≤ n.natAbs

/-- The value has an integer of its own with more digits than are written. -/
def IsLongInteger : Value → Prop
  | number (.int n) => IsLong n
  | stepRef index => IsLong index
  | aggregate a => ∃ n, a.value = some (.int n) ∧ IsLong n
  | _ => False

/-- Some part of a value has an integer with more digits than are written. -/
abbrev HasLongInteger (v : Value) : Prop := HasPart IsLongInteger v

/-- A decimal not-a-number that signals. -/
def IsSignaling : Value → Prop
  | decimal (.notANumber true ..) => True
  | _ => False

/-- Some part of a value is a decimal not-a-number that signals. -/
abbrev HasSignaling (v : Value) : Prop := HasPart IsSignaling v

end RecordCalc.Value
