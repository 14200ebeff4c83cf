/-
  How values are shown: texts in quotes, arrays in brackets, everything else by a form that names
  its parts. Only an integer with too many digits cannot be shown.
-/
import RecordCalc.Calendar.Written
import RecordCalc.Text.Search
import RecordCalc.Value.Basic

namespace RecordCalc

/-- An optional number as it is shown. -/
def shownNumber? : Option Number → Except Fault String
  | some n => n.shown
  | none => .ok "None"

namespace Aggregate

/-- An aggregate with its parts named. -/
def shown (a : Aggregate) : Except Fault String := do
  let value ← shownNumber? a.value
  return "NullTrackedAggregate(value=" ++ value ++ ", total=" ++ toString a.total ++
    ", null_count=" ++ toString a.nulls ++ ", i_mark_count=" ++ toString a.inapplicable ++
    ", present_count=" ++ toString a.present ++ ", applicable_count=" ++ toString a.applicable ++
    ", certainty=" ++ Binary64.write a.certainty ++ ")"

end Aggregate

namespace Value

/-- Shown items between round brackets; a single one has a comma after it. -/
def tupleText : List String → String
  | [item] => "(" ++ item ++ ",)"
  | items => "(" ++ Text.join ", " items ++ ")"

/-- An observation of a shown value and a shown time. -/
def observationText (value timestamp : String) : String :=
  "Observation(value=" ++ value ++ ", timestamp=" ++ timestamp ++ ")"

mutual

/-- A value as it is shown. -/
def shown : Value → Except Fault String
  | null => .ok "None"
  | bool b => .ok (if b then "True" else "False")
  | unknown => .ok "UNKNOWN"
  | number n => n.shown
  | decimal d => .ok ("Decimal('" ++ d.text ++ "')")
  | text s => .ok (Text.quoted s)
  | date d => .ok d.shown
  | datetime t => .ok t.shown
  | list vs => do return "[" ++ Text.join ", " (← shownItems vs) ++ "]"
  | tuple vs => do return tupleText (← shownItems vs)
  | map entries => do return "\x7b" ++ Text.join ", " (← shownEntries entries) ++ "\x7d"
  | mark .applicable reason => .ok ("AMark(reason=" ++ Text.quoted reason ++ ")")
  | mark .inapplicable reason => .ok ("IMark(reason=" ++ Text.quoted reason ++ ")")
  | aggregate a => a.shown
  | cell observations => do
    return "MultiObservationCell(observations=[" ++
      Text.join ", " (← shownObservations observations) ++ "])"
  | observation value timestamp => do
    return observationText (← shown value) (← shown timestamp)
  | stepRef index => do return "StepRef(index=" ++ (← Number.intText index) ++ ")"
  | step operator args => do
    return "PipelineStep(operator_id=" ++ Text.quoted operator ++ ", args=" ++
      tupleText (← shownItems args) ++ ")"

/-- Values as they are shown. -/
def shownItems : List Value → Except Fault (List String)
  | [] => .ok []
  | v :: vs => do return (← shown v) :: (← shownItems vs)

/-- The entries of a map as they are shown. -/
def shownEntries : List (String × Value) → Except Fault (List String)
  | [] => .ok []
  | (name, v) :: rest => do
    return (Text.quoted name ++ ": " ++ (← shown v)) :: (← shownEntries rest)

/-- Observations as they are shown. -/
def shownObservations : List (Value × Value) → Except Fault (List String)
  | [] => .ok []
  | (value, timestamp) :: rest => do
    return observationText (← shown value) (← shown timestamp) :: (← shownObservations rest)

end

/-- A value as plain text: texts as they are, dates in ISO form, decimals by their digits. -/
def plain : Value → Except Fault String
  | text s => .ok s
  | decimal d => .ok d.text
  | date d => .ok d.iso
  | datetime t => .ok (t.isoWith " ")
  | v => v.shown

end Value

end RecordCalc
