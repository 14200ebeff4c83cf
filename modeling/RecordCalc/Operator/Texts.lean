/-
  Functions on texts. Every value is taken as text first; places count code points from 1.
-/
import RecordCalc.Operator.Rule

namespace RecordCalc.Texts

/-- The characters of a value as text. -/
def charsOf (v : Value) : Except Fault (List Char) := String.toList <$> v.toText

/-- Characters as a text value. -/
def ofChars (cs : List Char) : Value := .text (String.ofList cs)

/-- The texts of the values, joined. -/
def concat (vs : List Value) : Except Fault Value := do
  return .text (Text.join "" (← vs.mapM (·.toText)))

/-- The text in upper case. -/
def upper (v : Value) : Except Fault Value := do return .text (Text.upper (← v.toText))

/-- The text in lower case. -/
def lower (v : Value) : Except Fault Value := do return .text (Text.lower (← v.toText))

/-- The text without blanks at its ends. -/
def trim (v : Value) : Except Fault Value := do return .text (Text.trim (← v.toText))

/-- The number of characters. -/
def length (v : Value) : Except Fault Value := do return .int (← charsOf v).length

/-- The first characters; without a positive count none, whatever the value. -/
def left (v count : Value) : Except Fault Value := do
  let n := count.toInteger 1
  if 0 < n then return ofChars ((← charsOf v).take n.toNat) else return .text ""

/-- The last characters; without a positive count none, whatever the value. -/
def right (v count : Value) : Except Fault Value := do
  let n := count.toInteger 1
  if 0 < n then return ofChars (Text.takeRight (← charsOf v) n.toNat) else return .text ""

/-- The characters from a place on. -/
def middle (v start count : Value) : Except Fault Value := do
  let first := max 1 (start.toInteger 1)
  let n := max 0 (count.toInteger 0)
  return ofChars (Text.slice (← charsOf v) (first - 1).toNat n.toNat)

/-- The place of the first occurrence at or after a place, zero without one. -/
def find (needle v start : Value) : Except Fault Value := do
  let offset := (max 1 (start.toInteger 1) - 1).toNat
  let text ← charsOf v
  let needle ← charsOf needle
  return .int
    (match Text.find? needle text offset with
    | some place => place + 1
    | none => 0)

/-- The greatest count that replacement and repetition take. -/
def countLimit : Nat := Nat.pow 2 63 - 1

/-- How many occurrences to replace, all of them when nothing is given. -/
def replacementLimit (count : Value) : Except Fault (Option Nat) :=
  match count with
  | .null => .ok none
  | v =>
    let n := (v.toInteger 0).toNat
    if countLimit < n then .error .replacementTooLarge else .ok (some n)

/-- The text with occurrences of another replaced; nothing is replaced for an empty one. -/
def substitute (v old new count : Value) : Except Fault Value := do
  let text ← charsOf v
  let target ← charsOf old
  if target.isEmpty then return ofChars text
  let replacement ← charsOf new
  let limit ← replacementLimit count
  return ofChars (Text.replace target replacement limit text)

/-- A rule of three or four arguments, nothing being the fourth by default. -/
def substituteRule : Rule
  | [v, old, new] => Rule.lift (substitute v old new .null)
  | [v, old, new, count] => Rule.lift (substitute v old new count)
  | _ => .error Rule.wrongCount

/-- The text written several times over. -/
def rept (v count : Value) : Except Fault Value := do
  let cs ← charsOf v
  let n := (count.toInteger 0).toNat
  if countLimit < n then throw .repetitionTooLarge
  if countLimit < cs.length * n then throw .repetitionTooLong
  if Fault.roomLimit < cs.length * n then throw .outOfMemory
  return ofChars (if cs.isEmpty then [] else Text.repeated cs n)

/-- The operators on texts. -/
def operators : List Operator := [
  { id := "CONCAT", displayName := "Concatenate", symbol := "&", category := .text,
    inputs := none, output := .text, arity := .variadic, minArity := 1,
    laws := [.associative, .identity], identity := .text "", aliases := ["CONCATENATE"],
    description := "Join values as text; absent values contribute nothing.",
    examples := [([.text "Hello", .text " ", .text "World"], .text "Hello World")],
    rule := Rule.many concat },
  { id := "UPPER", displayName := "Upper Case", category := .text,
    inputs := some [.text], output := .text, arity := .fixed 1, laws := [.idempotent],
    examples := [([.text "hello"], .text "HELLO")],
    rule := Rule.unary upper },
  { id := "LOWER", displayName := "Lower Case", category := .text,
    inputs := some [.text], output := .text, arity := .fixed 1, laws := [.idempotent],
    examples := [([.text "HELLO"], .text "hello")],
    rule := Rule.unary lower },
  { id := "TRIM", displayName := "Trim", category := .text,
    inputs := some [.text], output := .text, arity := .fixed 1, laws := [.idempotent],
    description := "Remove leading/trailing whitespace.",
    examples := [([.text "  hi  "], .text "hi")],
    rule := Rule.unary trim },
  { id := "LEN", displayName := "Length", category := .text,
    inputs := some [.text], output := .number, arity := .fixed 1,
    examples := [([.text "hello"], .int 5)],
    rule := Rule.unary length },
  { id := "LEFT", displayName := "Left", category := .text,
    inputs := some [.text, .number], output := .text, arity := .fixed 2, minArity := 1,
    description := "Return leftmost characters.",
    examples := [([.text "hello", .int 2], .text "he")],
    rule := Rule.binaryWith (.int 1) left },
  { id := "RIGHT", displayName := "Right", category := .text,
    inputs := some [.text, .number], output := .text, arity := .fixed 2, minArity := 1,
    description := "Return rightmost characters.",
    examples := [([.text "hello", .int 2], .text "lo")],
    rule := Rule.binaryWith (.int 1) right },
  { id := "MID", displayName := "Middle", category := .text,
    inputs := some [.text, .number, .number], output := .text, arity := .fixed 3,
    description := "Return a substring; ``start`` is 1-indexed.",
    examples := [([.text "hello", .int 2, .int 3], .text "ell")],
    rule := Rule.ternary middle },
  { id := "FIND", displayName := "Find", category := .text,
    inputs := some [.text, .text, .number], output := .number, arity := .fixed 3, minArity := 2,
    description := "1-indexed position of ``search`` in ``text``, 0 if missing.",
    examples := [([.text "l", .text "hello"], .int 3), ([.text "z", .text "hello"], .int 0)],
    rule := Rule.ternaryWith (.int 1) find },
  { id := "SUBSTITUTE", displayName := "Substitute", category := .text,
    inputs := some [.text, .text, .text, .number], output := .text, arity := .fixed 4,
    minArity := 3,
    description := "Replace occurrences of old with new.",
    examples := [([.text "a-b-c", .text "-", .text "+"], .text "a+b+c")],
    rule := substituteRule },
  { id := "REPT", displayName := "Repeat", category := .text,
    inputs := some [.text, .number], output := .text, arity := .fixed 2,
    examples := [([.text "ab", .int 3], .text "ababab")],
    rule := Rule.binary rept }]

end RecordCalc.Texts
