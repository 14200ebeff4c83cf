/-
  Aggregates over any number of values. Arrays are taken apart first; aggregates of numbers skip
  what has no number, and the tracked ones count what was missing.
-/
import RecordCalc.Operator.Rule

namespace RecordCalc.Aggregates

open Value (flatten numbers)

/-- How many of the flattened values have a property. -/
def countOf (p : Value → Bool) (vs : List Value) : Nat := ((flatten vs).filter p).length

/-- The sum of the numbers. -/
def sum (vs : List Value) : Except Fault Value := .number <$> Number.sum (numbers vs)

/-- The mean of some numbers, none of no numbers. -/
def mean (ns : List Number) : Except Fault (Option Number) := do
  if ns.isEmpty then return none
  return some (.float (← (← Number.sum ns).ratio (.int ns.length)))

/-- The mean of the numbers. -/
def average (vs : List Value) : Except Fault Value := .ofNumber? <$> mean (numbers vs)

/-- How many values are numbers. -/
def count (vs : List Value) : Except Fault Value := .ok (.int (countOf Value.isNumeric vs))

/-- How many values are not absent. -/
def countPresent (vs : List Value) : Except Fault Value :=
  .ok (.int (countOf (!·.isAbsent true) vs))

/-- How many values are absent. -/
def countAbsent (vs : List Value) : Except Fault Value := .ok (.int (countOf (·.isAbsent true) vs))

/-- How many values there are. -/
def countAll (vs : List Value) : Except Fault Value := .ok (.int (flatten vs).length)

/-- The first item that no other one beats by its key. -/
def pickBy (key : α → Number) (beats : Ordering) : List α → Option α
  | [] => none
  | a :: rest =>
    some (rest.foldl (fun best b => if (key b).compare (key best) = beats then b else best) a)

/-- The extreme of the values: the date of them when all are dates, else the number. -/
def extreme (beats : Ordering) (vs : List Value) : Except Fault Value :=
  let present := (flatten vs).filter fun v => !v.isAbsent true && !v.isUnknown
  if present.all Value.isDate then
    .ok ((pickBy Value.toNumber beats present).getD .null)
  else .ok (.ofNumber? (pickBy id beats (numbers present)))

/-- The least of the values. -/
def minimum : List Value → Except Fault Value := extreme .lt

/-- The greatest of the values. -/
def maximum : List Value → Except Fault Value := extreme .gt

/-- The texts of the items with a separator between them. -/
def join (v separator : Value) : Except Fault Value := do
  let items ← ((flatten [v]).filter (!·.isAbsent true)).mapM (·.toText)
  return .text (Text.join (← separator.toText) items)

/-- Whether a value is the same as one of a list. -/
def isAmong (v : Value) : List Value → Except Fault Bool
  | [] => .ok false
  | w :: ws => do if ← v.sameValue w then return true else isAmong v ws

/-- The values that are not the same as one kept before, after those kept already. -/
def distinctAfter (kept : List Value) : List Value → Except Fault (List Value)
  | [] => .ok kept
  | v :: vs => do
    if ← isAmong v kept then distinctAfter kept vs else distinctAfter (kept ++ [v]) vs

/-- The items, each once. -/
def distinct (v : Value) : Except Fault Value := .list <$> distinctAfter [] (flatten [v])

/-- The first value that is not absent. -/
def first (vs : List Value) : Except Fault Value :=
  .ok (((flatten vs).find? (!·.isAbsent true)).getD .null)

/-- The last value that is not absent. -/
def last (vs : List Value) : Except Fault Value :=
  .ok (((flatten vs).filter (!·.isAbsent true)).getLast?.getD .null)

/-- Whether a value is the mark of an attribute that does not apply. -/
def isInapplicable : Value → Bool
  | .mark .inapplicable _ => true
  | _ => false

/-- Whether a value is missing though it applies. -/
def isMissing (v : Value) : Bool := (v.isAbsent true || v.isUnknown) && !isInapplicable v

/-- The aggregate of some values with their counts; `present` counts those that entered it. -/
def tracked (vs : List Value) (value : Option Number) (present : Nat) : Except Fault Value := do
  let inapplicable := (vs.filter isInapplicable).length
  let applicable := vs.length - inapplicable
  let certainty ← if applicable = 0 then pure 0 else Number.ratio (.int present) (.int applicable)
  return .aggregate
    ⟨value, vs.length, (vs.filter isMissing).length, inapplicable, present, applicable, certainty⟩

/-- The sum, none of no numbers. -/
def sum? (ns : List Number) : Except Fault (Option Number) :=
  if ns.isEmpty then .ok none else some <$> Number.sum ns

/-- The sum with counts. -/
def trackedSum (vs : List Value) : Except Fault Value := do
  let ns := numbers vs
  tracked (flatten vs) (← sum? ns) ns.length

/-- The mean with counts. -/
def trackedMean (vs : List Value) : Except Fault Value := do
  let ns := numbers vs
  tracked (flatten vs) (← mean ns) ns.length

/-- The count of the values that are there, with counts. -/
def trackedCount (vs : List Value) : Except Fault Value :=
  let present := countOf (fun v => !isMissing v && !isInapplicable v) vs
  tracked (flatten vs) (some (.int present)) present

/-- The aggregate operators. -/
def operators : List Operator := [
  { id := "SUM", displayName := "Sum", category := .aggregate,
    inputs := none, output := .number, arity := .variadic, minArity := 1,
    description := "Sum of numeric values; others are skipped.",
    examples := [([.int 1, .int 2, .int 3], .int 6)],
    rule := Rule.many sum },
  { id := "AVG", displayName := "Average", category := .aggregate,
    inputs := none, output := .number, arity := .variadic, minArity := 1, aliases := ["AVERAGE"],
    description := "Average of numeric values.",
    examples := [([.int 2, .int 4, .int 6], .float 4.0)],
    rule := Rule.many average },
  { id := "COUNT", displayName := "Count", category := .aggregate,
    inputs := none, output := .number, arity := .variadic, minArity := 1,
    description := "Count of numeric values.",
    examples := [([.int 1, .text "a", .int 2], .int 2)],
    rule := Rule.many count },
  { id := "COUNTA", displayName := "Count Non-Empty", category := .aggregate,
    inputs := none, output := .number, arity := .variadic, minArity := 1,
    description := "Count of non-empty values.",
    examples := [([.int 1, .text "a", .null], .int 2)],
    rule := Rule.many countPresent },
  { id := "COUNTBLANK", displayName := "Count Blank", category := .aggregate,
    inputs := none, output := .number, arity := .variadic, minArity := 1,
    description := "Count of empty/blank values.",
    examples := [([.int 1, .text "", .null], .int 2)],
    rule := Rule.many countAbsent },
  { id := "MIN", displayName := "Minimum", category := .aggregate,
    inputs := none, output := .number, arity := .variadic, minArity := 1,
    laws := [.associative, .commutative, .idempotent],
    description := "Minimum of numeric (or all-date) values.",
    examples := [([.int 3, .int 1, .int 2], .int 1)],
    rule := Rule.many minimum },
  { id := "MAX", displayName := "Maximum", category := .aggregate,
    inputs := none, output := .number, arity := .variadic, minArity := 1,
    laws := [.associative, .commutative, .idempotent],
    description := "Maximum of numeric (or all-date) values.",
    examples := [([.int 3, .int 1, .int 2], .int 3)],
    rule := Rule.many maximum },
  { id := "ARRAY_JOIN", displayName := "Array Join", symbol := "ARRAYJOIN", category := .aggregate,
    inputs := some [.array, .text], output := .text, arity := .fixed 2, minArity := 1,
    description := "Join array items with a separator.",
    examples := [([.list [.text "a", .text "b"], .text "-"], .text "a-b")],
    rule := Rule.binaryWith (.text ", ") join },
  { id := "UNIQUE", displayName := "Unique", category := .aggregate,
    inputs := some [.array], output := .array, arity := .fixed 1, laws := [.idempotent],
    aliases := ["ARRAYUNIQUE"],
    description := "Distinct items in first-seen order.",
    examples := [([.list [.int 1, .int 2, .int 1]], .list [.int 1, .int 2])],
    rule := Rule.unary distinct },
  { id := "FIRST", displayName := "First", category := .aggregate,
    inputs := none, output := .any, arity := .variadic, minArity := 1,
    description := "First non-empty value.",
    examples := [([.null, .int 2, .int 3], .int 2)],
    rule := Rule.many first },
  { id := "LAST", displayName := "Last", category := .aggregate,
    inputs := none, output := .any, arity := .variadic, minArity := 1,
    description := "Last non-empty value.",
    examples := [([.int 1, .int 2, .null], .int 2)],
    rule := Rule.many last }]

/-- The aggregates that count what is missing. -/
def trackedOperators : List Operator := [
  { id := "SUM_CODD", displayName := "Sum (NULL-tracked)", category := .null,
    inputs := none, output := .any, arity := .variadic, minArity := 1,
    description := "Sum of present values, reporting how many were missing.",
    rule := Rule.many trackedSum },
  { id := "AVG_CODD", displayName := "Average (NULL-tracked)", category := .null,
    inputs := none, output := .any, arity := .variadic, minArity := 1,
    description := "Average of present values, reporting how many were missing.",
    rule := Rule.many trackedMean },
  { id := "COUNT_CODD", displayName := "Count (NULL-tracked)", category := .null,
    inputs := none, output := .any, arity := .variadic, minArity := 1,
    description := "Count of present values, reporting how many were missing.",
    rule := Rule.many trackedCount },
  { id := "COUNT_ALL", displayName := "Count All", category := .null,
    inputs := none, output := .number, arity := .variadic, minArity := 1,
    description := "Count every value, absent or not.",
    examples := [([.int 1, .null, .text ""], .int 3)],
    rule := Rule.many countAll }]

end RecordCalc.Aggregates
