/-
  Values as JSON. Dates and datetimes are texts in ISO form, marks and observations are objects of
  their parts, a number that is not finite is null, and what JSON has no form for is a text.
-/
import RecordCalc.Calendar.Written
import RecordCalc.Value.Shown

namespace RecordCalc.Log

open Calendar (DateTime Offset secondMicros dayMicros)

namespace Json

/-! ## Scalars -/

/-- How a character is written in a text. -/
def textChar (c : Char) : List Char :=
  if c == '"' || c == '\\' then ['\\', c]
  else if c == '\x08' then ['\\', 'b']
  else if c == '\t' then ['\\', 't']
  else if c == '\n' then ['\\', 'n']
  else if c == '\x0c' then ['\\', 'f']
  else if c == '\r' then ['\\', 'r']
  else if c.toNat < 0x20 then '\\' :: 'u' :: Text.hexDigits c.toNat 4
  else [c]

/-- A text between double quotes. -/
def text (s : String) : String :=
  String.ofList ('"' :: s.toList.flatMap textChar ++ ['"'])

/-- The layout of floating-point numbers. -/
def numberLayout : Binary64.Layout := ⟨-5, 16, ".0", "e", "+", 1, "null", "null"⟩

/-- A floating-point number. -/
def float (x : Float) : String := if Binary64.isFinite x then numberLayout.write x else "null"

/-- An integer; it has to fit into 64 bits, with or without a sign. -/
def int (n : Int) : Except Fault String :=
  if -(Nat.pow 2 63 : Int) ≤ n && n < (Nat.pow 2 64 : Int) then .ok (toString n)
  else .error (.declared .sort "Integer exceeds 64-bit range")

/-- A number. -/
def number : Number → Except Fault String
  | .int n => int n
  | .float x => .ok (float x)
  | .nan _ => .ok "null"

/-- An offset as hours and minutes, of which only the full seconds count; half a minute counts as a
whole one. One of no second within its day is that of universal time. -/
def offset (o : Offset) : String :=
  let seconds := Int.fdiv o.micros secondMicros
  if Int.fmod seconds 86400 = 0 then "+00:00"
  else
    let n := seconds.natAbs
    let minutes := n / 60 % 60 + if 30 ≤ n % 60 then 1 else 0
    (if seconds < 0 then "-" else "+") ++ Binary64.padded (n / 3600) 2 ++ ":" ++
      Binary64.padded minutes 2

/-- A datetime. -/
def datetime (t : DateTime) : String :=
  ({ t with offset := none } : DateTime).iso ++
    match t.offset with
    | none => ""
    | some o => offset o

/-! ## Values -/

/-- Written items between square brackets. -/
def array (items : List String) : String := "[" ++ Text.join "," items ++ "]"

/-- Written values by name. -/
def object (entries : List (String × String)) : String :=
  "\x7b" ++ Text.join "," (entries.map fun e => text e.1 ++ ":" ++ e.2) ++ "\x7d"

/-- An observation of a written value and a written time. -/
def observation (value timestamp : String) : String :=
  object [("value", value), ("timestamp", timestamp)]

/-- An aggregate by its parts. -/
def aggregate (a : Aggregate) : Except Fault String := do
  let value ←
    match a.value with
    | some n => number n
    | none => .ok "null"
  return object [("value", value), ("total", toString a.total), ("null_count", toString a.nulls),
    ("i_mark_count", toString a.inapplicable), ("present_count", toString a.present),
    ("applicable_count", toString a.applicable), ("certainty", float a.certainty)]

/-- The bound on how deep arrays and objects may stand in one another. -/
def depthLimit : Nat := 255

/-- The fault of values that stand too deep in one another. -/
def tooDeep : Fault := .declared .sort "Recursion limit reached"

/-- Checks that an array or object at a depth stays within the bound. -/
def checkDepth (depth : Nat) : Except Fault Unit :=
  if depth < depthLimit then .ok () else .error tooDeep

mutual

/-- A value within a number of arrays and objects. A map counts from the outside and an array where
it has items, while an object of other parts counts for what it holds. -/
def write (depth : Nat) : Value → Except Fault String
  | .null => .ok "null"
  | .bool b => .ok (if b then "true" else "false")
  | .unknown => .ok (text "UNKNOWN")
  | .number n => number n
  | .decimal d => .ok (text d.text)
  | .text s => .ok (text s)
  | .date d => .ok (text d.iso)
  | .datetime t => .ok (text (datetime t))
  | .list vs => writeArray depth vs
  | .tuple vs => writeArray depth vs
  | .map entries => do
    checkDepth (depth + 1)
    return object (← writeEntries (depth + 1) entries)
  | .mark _ reason => do
    checkDepth depth
    return object [("reason", text reason)]
  | .aggregate a => do
    checkDepth depth
    aggregate a
  | .cell observations => do
    checkDepth depth
    if !observations.isEmpty then checkDepth (depth + 2)
    return object [("observations", array (← writeObservations (depth + 2) observations))]
  | .observation value timestamp => do
    checkDepth depth
    return observation (← write (depth + 1) value) (← write (depth + 1) timestamp)
  | .stepRef index => do
    checkDepth depth
    return object [("index", ← int index)]
  | .step operator args => do
    checkDepth depth
    return object [("operator_id", text operator), ("args", ← writeArray (depth + 1) args)]

/-- The items of an array within a number of arrays and objects. -/
def writeArray (depth : Nat) : List Value → Except Fault String
  | [] => .ok (array [])
  | v :: vs => do
    checkDepth (depth + 1)
    return array ((← write (depth + 1) v) :: (← writeItems (depth + 1) vs))

/-- Items of an array. -/
def writeItems (depth : Nat) : List Value → Except Fault (List String)
  | [] => .ok []
  | v :: vs => do return (← write depth v) :: (← writeItems depth vs)

/-- Values by name. -/
def writeEntries (depth : Nat) : List (String × Value) → Except Fault (List (String × String))
  | [] => .ok []
  | (name, v) :: rest => do return (name, ← write depth v) :: (← writeEntries depth rest)

/-- Observations. -/
def writeObservations (depth : Nat) : List (Value × Value) → Except Fault (List String)
  | [] => .ok []
  | (value, timestamp) :: rest => do
    checkDepth depth
    return observation (← write (depth + 1) value) (← write (depth + 1) timestamp) ::
      (← writeObservations depth rest)

end

end Json

end RecordCalc.Log
