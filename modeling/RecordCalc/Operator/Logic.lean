/-
  Comparisons and two-valued logic. Comparisons are those of formulas; the connectives take the
  truth of any value, absent values being false.
-/
import RecordCalc.Operator.Rule

namespace RecordCalc.Logic

/-- Whether two values are equal in formulas. -/
def equal (a b : Value) : Except Fault Value := .bool <$> a.equals b

/-- Whether two values differ in formulas. -/
def notEqual (a b : Value) : Except Fault Value := do return .bool !(← a.equals b)

/-- Whether the first value stands before the second. -/
def less (a b : Value) : Except Fault Value := .ok (.bool (a.order b == .lt))

/-- Whether the first value stands after the second. -/
def greater (a b : Value) : Except Fault Value := .ok (.bool (a.order b == .gt))

/-- Whether the first value does not stand after the second. -/
def lessEqual (a b : Value) : Except Fault Value := .ok (.bool (a.order b != .gt))

/-- Whether the first value does not stand before the second. -/
def greaterEqual (a b : Value) : Except Fault Value := .ok (.bool (a.order b != .lt))

/-- Whether every value is true. -/
def and (vs : List Value) : Except Fault Value := .ok (.bool (vs.all (·.toBoolean)))

/-- Whether some value is true. -/
def or (vs : List Value) : Except Fault Value := .ok (.bool (vs.any (·.toBoolean)))

/-- Whether the value is false. -/
def not (a : Value) : Except Fault Value := .ok (.bool !a.toBoolean)

/-- Whether an odd number of values are true, those in arrays included. -/
def xor (vs : List Value) : Except Fault Value :=
  .ok (.bool (((Value.flatten vs).filter (·.toBoolean)).length % 2 == 1))

/-- One of two values, chosen by a condition. -/
def choose (condition yes no : Value) : Except Fault Value :=
  .ok (if condition.toBoolean then yes else no)

/-- The comparisons. -/
def comparisons : List Operator := [
  { id := "EQUAL", displayName := "Equal", symbol := "=", category := .comparison,
    inputs := some [.any, .any], output := .boolean, arity := .fixed 2, laws := [.commutative],
    description := "Check two values for equality.",
    examples := [([.int 5, .int 5], .bool true), ([.text "a", .text "b"], .bool false)],
    rule := Rule.binary equal },
  { id := "NOT_EQUAL", displayName := "Not Equal", symbol := "!=", category := .comparison,
    inputs := some [.any, .any], output := .boolean, arity := .fixed 2, laws := [.commutative],
    description := "Check two values for inequality.",
    examples := [([.int 5, .int 3], .bool true)],
    rule := Rule.binary notEqual },
  { id := "LESS_THAN", displayName := "Less Than", symbol := "<", category := .comparison,
    inputs := some [.number, .number], output := .boolean, arity := .fixed 2,
    examples := [([.int 3, .int 5], .bool true)],
    rule := Rule.binary less },
  { id := "GREATER_THAN", displayName := "Greater Than", symbol := ">", category := .comparison,
    inputs := some [.number, .number], output := .boolean, arity := .fixed 2,
    examples := [([.int 5, .int 3], .bool true)],
    rule := Rule.binary greater },
  { id := "LESS_EQUAL", displayName := "Less or Equal", symbol := "<=", category := .comparison,
    inputs := some [.number, .number], output := .boolean, arity := .fixed 2,
    examples := [([.int 5, .int 5], .bool true)],
    rule := Rule.binary lessEqual },
  { id := "GREATER_EQUAL", displayName := "Greater or Equal", symbol := ">=",
    category := .comparison, inputs := some [.number, .number], output := .boolean,
    arity := .fixed 2,
    examples := [([.int 5, .int 6], .bool false)],
    rule := Rule.binary greaterEqual }]

/-- The connectives. -/
def connectives : List Operator := [
  { id := "AND", displayName := "And", category := .logical,
    inputs := none, output := .boolean, arity := .variadic,
    laws := [.associative, .commutative, .idempotent, .identity, .absorbing],
    identity := .bool true, absorbing := .bool false,
    description := "True if every argument is truthy.",
    examples := [([.bool true, .bool true], .bool true), ([.bool true, .bool false], .bool false)],
    isLazy := true, rule := Rule.many and },
  { id := "OR", displayName := "Or", category := .logical,
    inputs := none, output := .boolean, arity := .variadic,
    laws := [.associative, .commutative, .idempotent, .identity, .absorbing],
    identity := .bool false, absorbing := .bool true,
    description := "True if any argument is truthy.",
    examples := [
      ([.bool false, .bool true], .bool true), ([.bool false, .bool false], .bool false)],
    isLazy := true, rule := Rule.many or },
  { id := "NOT", displayName := "Not", symbol := "!", category := .logical,
    inputs := some [.boolean], output := .boolean, arity := .fixed 1, laws := [.involutory],
    description := "Logical negation.",
    examples := [([.bool true], .bool false)],
    rule := Rule.unary not },
  { id := "XOR", displayName := "Exclusive Or", category := .logical,
    inputs := none, output := .boolean, arity := .variadic, minArity := 1,
    laws := [.associative, .commutative],
    description := "True if an odd number of arguments are truthy.",
    examples := [([.bool true, .bool false], .bool true), ([.bool true, .bool true], .bool false)],
    rule := Rule.many xor },
  { id := "IF", displayName := "If", category := .logical,
    inputs := some [.boolean, .any, .any], output := .any, arity := .fixed 3, minArity := 2,
    description := "Pick one of two values by a condition.",
    examples := [([.bool true, .text "yes", .text "no"], .text "yes"),
      ([.bool false, .text "yes"], .null)],
    isLazy := true, rule := Rule.ternaryWith .null choose }]

/-- The logical operators. -/
def operators : List Operator := comparisons ++ connectives

end RecordCalc.Logic
