/-
  Cells with several observations. A formula sees one of them: the latest, the first of those when
  several share the latest time. A time that cannot be read ranks below every other.
-/
import RecordCalc.Calendar.Reader
import RecordCalc.Value.Basic

namespace RecordCalc.Value

open Calendar (DateTime)

/-- The seconds since the epoch that a timestamp denotes, none when it cannot be read. -/
def timestampKey : Value → Except Fault (Option Float)
  | number n => some <$> n.toFloat
  | text s => .ok ((DateTime.readIso? (Text.trim s)).map (·.withOffset.timestamp))
  | datetime t => .ok (some t.withOffset.timestamp)
  | date d => .ok (some (DateTime.ofDate d).withOffset.timestamp)
  | _ => .ok none

/-- Whether an observation at the first time gives way to a later one in the list at the second. -/
def givesWay : Option Float → Option Float → Bool
  | _, none => false
  | none, some _ => true
  | some best, some key => best < key

/-- The value that dominates when `best` leads with its time. -/
def dominantFrom (best : Value) (key : Option Float) : List (Value × Value) → Except Fault Value
  | [] => .ok best
  | (value, timestamp) :: rest => do
    let next ← timestampKey timestamp
    if givesWay key next then dominantFrom value next rest else dominantFrom best key rest

/-- The value of the dominant observation, nothing for an empty cell. -/
def dominantValue : List (Value × Value) → Except Fault Value
  | [] => .ok null
  | (value, timestamp) :: rest => do dominantFrom value (← timestampKey timestamp) rest

/-- An item of an observation list: an observation, a map of value and timestamp, or a value
alone. -/
def observationOf : Value → Value × Value
  | observation value timestamp => (value, timestamp)
  | map entries => ((lookup entries "value").getD null, (lookup entries "timestamp").getD null)
  | v => (v, null)

/-- The observations that a raw value of a record holds, none when it is a plain value. -/
def observations? : Value → Option (List (Value × Value))
  | cell observations => some observations
  | map entries => ((lookup entries "values").bind items?).map (·.map observationOf)
  | _ => none

/-- The value that a formula sees for a raw value of a record. -/
def resolveCell (raw : Value) : Except Fault Value :=
  match observations? raw with
  | some observations => dominantValue observations
  | none => .ok raw

end RecordCalc.Value
