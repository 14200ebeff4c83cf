/-
  Functions on types and on absent data: conversions and tests, marks, comparisons that tell absent
  values apart, and three-valued logic.
-/
import RecordCalc.Operator.Rule

namespace RecordCalc.Absence

/-- The number of a value, nothing where it has none. -/
def toNumber (v : Value) : Except Fault Value := .ok (.ofNumber? v.toNumber?)

/-- The text of a value. -/
def toText (v : Value) : Except Fault Value := .text <$> v.toText

/-- Whether the value is absent or an array without items. -/
def isBlank (v : Value) : Except Fault Value :=
  .ok (.bool (v.isAbsent true || (v.items?.map List.isEmpty).getD false))

/-- Whether the value is a number. -/
def isNumber (v : Value) : Except Fault Value := .ok (.bool v.isNumeric)

/-- Whether the value is a text. -/
def isText (v : Value) : Except Fault Value :=
  .ok (.bool (match v with | .text _ => true | _ => false))

/-- Whether the value is nothing or a mark. -/
def isNull (v : Value) : Except Fault Value := .ok (.bool (v.isAbsent false))

/-- Whether the value is neither nothing nor a mark. -/
def isNotNull (v : Value) : Except Fault Value := .ok (.bool !v.isAbsent false)

/-- Whether two values are distinct, absent values being all the same. -/
def distinct (a b : Value) : Except Fault Bool := do
  if a.isAbsent true || b.isAbsent true then return a.isAbsent true != b.isAbsent true
  return !(← a.sameValue b)

/-- Whether two values are distinct. -/
def isDistinct (a b : Value) : Except Fault Value := .bool <$> distinct a b

/-- Whether two values are not distinct. -/
def isNotDistinct (a b : Value) : Except Fault Value := do return .bool !(← distinct a b)

/-- The first value, nothing when the second is the same. -/
def nullIf (a b : Value) : Except Fault Value := do
  if a.isAbsent true || b.isAbsent true then return a
  if ← a.sameValue b then return .null else return a

/-- The first value that is neither absent nor unknown. -/
def coalesce (vs : List Value) : Except Fault Value :=
  .ok ((vs.find? fun v => !v.isAbsent true && !v.isUnknown).getD .null)

/-- A mark with a reason, the default one for an absent reason. -/
def mark (kind : MarkKind) (reason : Value) : Except Fault Value := do
  if reason.isAbsent true then return .mark kind kind.defaultReason
  return .mark kind (← reason.toText)

/-- A rule that makes a mark, with or without a reason. -/
def markRule (kind : MarkKind) : Rule
  | [] => Rule.lift (mark kind .null)
  | [reason] => Rule.lift (mark kind reason)
  | _ => .error Rule.wrongCount

/-- Whether the value is a mark of a kind. -/
def isMark (kind : MarkKind) (v : Value) : Except Fault Value :=
  .ok (.bool (match v with | .mark k _ => k == kind | _ => false))

/-- Three-valued conjunction. -/
def and3 (vs : List Value) : Except Fault Value :=
  .ok (Truth.all (vs.map (·.truth true))).toValue

/-- Three-valued disjunction. -/
def or3 (vs : List Value) : Except Fault Value :=
  .ok (Truth.any (vs.map (·.truth true))).toValue

/-- Three-valued negation. -/
def not3 (v : Value) : Except Fault Value := .ok (v.truth true).not.toValue

/-- Equality, unknown when a side is missing. -/
def equal3 (a b : Value) : Except Fault Value := do
  if a.isUnknown || b.isUnknown || a.isAbsent true || b.isAbsent true then return .unknown
  return .bool (← a.equals b)

/-- The operators on types. -/
def typeOperators : List Operator := [
  { id := "TO_NUMBER", displayName := "To Number", symbol := "VALUE", category := .type,
    inputs := some [.any], output := .number, arity := .fixed 1,
    description := "Parse a value as a number; NULL when it has none.",
    examples := [([.text "1,234.5"], .float 1234.5), ([.text "abc"], .null)],
    rule := Rule.unary toNumber },
  { id := "TO_TEXT", displayName := "To Text", symbol := "TEXT", category := .type,
    inputs := some [.any], output := .text, arity := .fixed 1,
    examples := [([.float 3.0], .text "3"), ([.bool true], .text "TRUE")],
    rule := Rule.unary toText },
  { id := "ISBLANK", displayName := "Is Blank", category := .type,
    inputs := some [.any], output := .boolean, arity := .fixed 1,
    description := "Check for an empty value (None, empty text or empty array).",
    examples := [([.text ""], .bool true), ([.int 0], .bool false)],
    rule := Rule.unary isBlank },
  { id := "ISNUMBER", displayName := "Is Number", category := .type,
    inputs := some [.any], output := .boolean, arity := .fixed 1,
    examples := [([.int 5], .bool true), ([.text "5"], .bool false)],
    rule := Rule.unary isNumber },
  { id := "ISTEXT", displayName := "Is Text", category := .type,
    inputs := some [.any], output := .boolean, arity := .fixed 1,
    examples := [([.text "a"], .bool true)],
    rule := Rule.unary isText },
  { id := "BLANK", displayName := "Blank", category := .type,
    inputs := some [], output := .null, arity := .fixed 0,
    description := "Return blank/null value.", rule := Rule.nullary .null }]

/-- The operators on absent data. -/
def nullOperators : List Operator := [
  { id := "ISNULL", displayName := "Is Null", category := .null,
    inputs := some [.any], output := .boolean, arity := .fixed 1,
    description := "Check for NULL (None or an absence mark).",
    examples := [([.null], .bool true), ([.int 0], .bool false)],
    rule := Rule.unary isNull },
  { id := "ISNOTNULL", displayName := "Is Not Null", category := .null,
    inputs := some [.any], output := .boolean, arity := .fixed 1,
    examples := [([.int 0], .bool true)],
    rule := Rule.unary isNotNull },
  { id := "IS_DISTINCT_FROM", displayName := "Is Distinct From", category := .null,
    inputs := some [.any, .any], output := .boolean, arity := .fixed 2, laws := [.commutative],
    description := "NULL-safe inequality: two absent values are not distinct.",
    examples := [([.null, .null], .bool false), ([.null, .int 5], .bool true),
      ([.int 5, .int 5], .bool false)],
    rule := Rule.binary isDistinct },
  { id := "IS_NOT_DISTINCT_FROM", displayName := "Is Not Distinct From", category := .null,
    inputs := some [.any, .any], output := .boolean, arity := .fixed 2, laws := [.commutative],
    examples := [([.null, .null], .bool true)],
    rule := Rule.binary isNotDistinct },
  { id := "NULLIF", displayName := "Null If", category := .null,
    inputs := some [.any, .any], output := .any, arity := .fixed 2,
    description := "NULL when both values match, otherwise the first value.",
    examples := [([.int 5, .int 5], .null), ([.int 5, .int 3], .int 5)],
    rule := Rule.binary nullIf },
  { id := "COALESCE", displayName := "Coalesce", category := .null,
    inputs := none, output := .any, arity := .variadic, minArity := 1,
    description := "First argument that is not absent.",
    examples := [([.null, .text "", .int 3], .int 3)],
    rule := Rule.many coalesce },
  { id := "A_MARK", displayName := "Applicable Mark", category := .null,
    inputs := some [.text], output := .null, arity := .fixed 1, minArity := 0,
    description := "Mark a value as existing but unknown.",
    rule := markRule .applicable },
  { id := "I_MARK", displayName := "Inapplicable Mark", category := .null,
    inputs := some [.text], output := .null, arity := .fixed 1, minArity := 0,
    description := "Mark an attribute as not applying.",
    rule := markRule .inapplicable },
  { id := "IS_A_MARK", displayName := "Is Applicable Mark", category := .null,
    inputs := some [.any], output := .boolean, arity := .fixed 1,
    rule := Rule.unary (isMark .applicable) },
  { id := "IS_I_MARK", displayName := "Is Inapplicable Mark", category := .null,
    inputs := some [.any], output := .boolean, arity := .fixed 1,
    rule := Rule.unary (isMark .inapplicable) },
  { id := "AND3", displayName := "Three-Valued And", category := .null,
    inputs := none, output := .boolean, arity := .variadic, laws := [.associative, .commutative],
    description := "Kleene AND: FALSE wins, then UNKNOWN, then TRUE.",
    examples := [([.bool false, .unknown], .bool false), ([.bool true, .unknown], .unknown)],
    isLazy := true, rule := Rule.many and3 },
  { id := "OR3", displayName := "Three-Valued Or", category := .null,
    inputs := none, output := .boolean, arity := .variadic, laws := [.associative, .commutative],
    description := "Kleene OR: TRUE wins, then UNKNOWN, then FALSE.",
    examples := [([.bool true, .unknown], .bool true), ([.bool false, .unknown], .unknown)],
    isLazy := true, rule := Rule.many or3 },
  { id := "NOT3", displayName := "Three-Valued Not", category := .null,
    inputs := some [.boolean], output := .boolean, arity := .fixed 1, laws := [.involutory],
    examples := [([.unknown], .unknown), ([.bool true], .bool false)],
    rule := Rule.unary not3 },
  { id := "EQ3", displayName := "Three-Valued Equal", category := .null,
    inputs := some [.any, .any], output := .boolean, arity := .fixed 2, laws := [.commutative],
    description := "Equality that is UNKNOWN when either side is missing.",
    examples := [([.null, .null], .unknown), ([.int 5, .int 5], .bool true)],
    rule := Rule.binary equal3 }]

end RecordCalc.Absence
