/-
  The error that a log record tells of. It is written below the line of the record, by its kind and
  its words. A value in its place is read as a triple of kind, error and trace, of which only the
  one without an error and without a trace can be written.
-/
import RecordCalc.Failure

namespace RecordCalc.Log

/-- An error: the family and the name of its kind, and the text that it is stated with. -/
structure ErrorInfo where
  family : String
  kind : String
  text : String
deriving DecidableEq, Repr

namespace ErrorInfo

/-- The family of a kind of fault. -/
def familyOf : FaultKind → String
  | .decimalOverflow | .decimalInvalid => "decimal."
  | .other name =>
    if ["DecimalException", "Clamped", "Rounded", "Inexact", "Subnormal", "DivisionByZero",
        "Underflow", "FloatOperation"].contains name then "decimal." else ""
  | _ => ""

/-- An error of a kind of fault. -/
def ofFault (kind : FaultKind) (text : String) : ErrorInfo := ⟨familyOf kind, kind.name, text⟩

/-- The error of a report. -/
def ofReport (r : Report) : ErrorInfo := ⟨"tabformula.core.exceptions.", r.kind.name, r.message⟩

/-- The kinds that say so when they have no words. -/
def wordyKinds : List String := ["SyntaxError", "IndentationError", "TabError"]

/-- The words of an error; a missing key is shown in quotes. -/
def words (e : ErrorInfo) : String :=
  if e.kind = "KeyError" then Text.quoted e.text
  else if e.text.isEmpty && wordyKinds.contains e.kind then "<no detail available>"
  else e.text

/-- The error as a line; a kind without words stands alone. -/
def line (e : ErrorInfo) : String :=
  e.family ++ e.kind ++ if e.words.isEmpty then "" else ": " ++ e.words

/-- The error as it is shown: its kind, itself, and no trace. -/
def shown (e : ErrorInfo) : String :=
  "(<class '" ++ e.family ++ e.kind ++ "'>, " ++ e.kind ++ "(" ++ Text.quoted e.text ++ "), None)"

/-- The fault of a value without an attribute. -/
def lacks (v : Value) (part : String) : Fault :=
  .declared (.other "AttributeError")
    ("'" ++ v.familyName ++ "' object has no attribute '" ++ part ++ "'")

/-- The line of an error and a trace that are values. -/
def lineOfParts (error trace : Value) : Except Fault String :=
  match trace, error with
  | .null, .null => .ok "NoneType: None"
  | .null, v => .error (lacks v "__suppress_context__")
  | v, _ => .error (lacks v "tb_frame")

/-- The line of a value in the place of an error. -/
def lineOf (v : Value) : Except Fault String :=
  match v with
  | .list (_ :: error :: trace :: _) | .tuple (_ :: error :: trace :: _) => lineOfParts error trace
  | .list _ => .error (.missingArgument false)
  | .tuple _ => .error (.missingArgument true)
  | .text s =>
    if s.length < 3 then .error (.declared .place "string index out of range")
    else .error (lacks v "tb_frame")
  | .map _ => .error (.declared (.other "KeyError") "2")
  | v => .error (.declared .sort ("'" ++ v.familyName ++ "' object is not subscriptable"))

end ErrorInfo

end RecordCalc.Log
