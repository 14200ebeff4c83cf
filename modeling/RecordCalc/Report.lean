/-
  Reports from their parts. Each kind of failure has parts in a fixed order, some with a default;
  the wide kinds state their message, code and details themselves, the narrow ones make them from
  what they name. Parts that do not fit the kind are a fault.
-/
import RecordCalc.Failure

namespace RecordCalc

/-- A part of a report, with the value that it has where it is not given. -/
structure ReportPart where
  name : String
  default : Option Value := none

namespace FailureKind

/-- The kind of a name. -/
def ofName? (s : String) : Option FailureKind := all.find? (·.name == s)

/-- The parts of a report, in order. -/
def parts : FailureKind → List ReportPart
  | general | registry => [⟨"message", none⟩, ⟨"code", some .null⟩, ⟨"details", some .null⟩]
  | evaluation =>
    [⟨"message", none⟩, ⟨"code", some (.text evaluation.code)⟩, ⟨"details", some .null⟩]
  | formulaSyntax => [⟨"message", none⟩, ⟨"position", some .null⟩]
  | unknownFunction | duplicateOperator => [⟨"name", none⟩]
  | arity => [⟨"name", none⟩, ⟨"expected", none⟩, ⟨"received", none⟩]
  | divisionByZero => [⟨"operator_id", some (.text "DIVIDE")⟩]
  | operatorNotFound | registryFrozen => [⟨"operator_id", none⟩]
  | composition => [⟨"message", none⟩, ⟨"details", some .null⟩]
  | configuration => [⟨"message", none⟩, ⟨"setting", some .null⟩]

/-- What takes the parts of a report, as a fault names it; one wide kind takes them like the
widest. -/
def taker : FailureKind → String
  | registry => general.name ++ ".__init__()"
  | kind => kind.name ++ ".__init__()"

end FailureKind

namespace ReportPart

/-- A count with a noun. -/
def counted (n : Nat) (noun : String) : String :=
  toString n ++ " " ++ noun ++ if n = 1 then "" else "s"

/-- Names in quotes in a sentence. -/
def listed (names : List String) : String :=
  let quoted := names.map fun n => "'" ++ n ++ "'"
  match quoted.reverse with
  | [] => ""
  | [a] => a
  | [b, a] => a ++ " and " ++ b
  | last :: before => Text.join ", " before.reverse ++ ", and " ++ last

/-- The fault of parts that do not fit. -/
def misfit (kind : FailureKind) (text : String) : Fault :=
  .declared .sort (kind.taker ++ " " ++ text)

/-- The name of the report itself, which is always given. -/
def ownName : String := "self"

/-- Adds parts given by name to those given before: each has to be known and given once. -/
def addNamed (kind : FailureKind) (given : List (String × Value)) :
    List (String × Value) → Except Fault (List (String × Value))
  | [] => .ok given
  | (name, v) :: rest =>
    if (ownName :: given.map (·.1)).contains name then
      .error (misfit kind ("got multiple values for argument '" ++ name ++ "'"))
    else if (kind.parts.map (·.name)).contains name then addNamed kind (given ++ [(name, v)]) rest
    else .error (misfit kind ("got an unexpected keyword argument '" ++ name ++ "'"))

/-- Checks that no more parts are given in order than there are; the report counts among them. -/
def checkCount (kind : FailureKind) (count : Nat) : Except Fault Unit :=
  let most := kind.parts.length + 1
  let least := (kind.parts.filter (·.default.isNone)).length + 1
  if count < most then .ok ()
  else
    let range :=
      if least = most then counted most "positional argument"
      else "from " ++ toString least ++ " to " ++ toString most ++ " positional arguments"
    .error (misfit kind ("takes " ++ range ++ " but " ++ toString (count + 1) ++ " were given"))

/-- Checks that no part is missing. -/
def checkMissing (kind : FailureKind) (given : List (String × Value)) : Except Fault Unit :=
  let missing := kind.parts.filter fun p =>
    p.default.isNone && !(given.map (·.1)).contains p.name
  if missing.isEmpty then .ok ()
  else
    .error (misfit kind ("missing " ++ counted missing.length "required positional argument" ++
      ": " ++ listed (missing.map (·.name))))

/-- The value of a part, its default where it is not given. -/
def valueIn (p : ReportPart) (given : List (String × Value)) : Value :=
  ((Value.lookup given p.name).or p.default).getD .null

/-- The parts of a kind from values in order and values by name. -/
def assign (kind : FailureKind) (inOrder : List Value) (byName : List (String × Value)) :
    Except Fault (List (String × Value)) := do
  let given ← addNamed kind ((kind.parts.map (·.name)).zip inOrder) byName
  checkCount kind inOrder.length
  checkMissing kind given
  return kind.parts.map fun p => (p.name, p.valueIn given)

end ReportPart

/-- A report as it is stated: what it tells may be any values. -/
structure Statement where
  kind : FailureKind
  message : Value
  code : Value
  details : Value

namespace Statement

/-- A value that counts as stated, else another. -/
def stated (v other : Value) : Value := if v.isTruthy then v else other

/-- The statement of a wide kind; a code that is not stated is the name of the kind. -/
def wide (kind : FailureKind) (message code details : Value) : Statement :=
  ⟨kind, message, stated code (.text kind.name), stated details (.map [])⟩

/-- The statement of a kind with its own code. -/
def narrow (kind : FailureKind) (message : String) (details : List (String × Value)) : Statement :=
  ⟨kind, .text message, .text kind.code, .map details⟩

/-- The statement of a kind with values in order and values by name. -/
def ofParts (kind : FailureKind) (inOrder : List Value) (byName : List (String × Value)) :
    Except Fault Statement := do
  let parts ← ReportPart.assign kind inOrder byName
  let get := fun name => (Value.lookup parts name).getD .null
  let code := Value.text kind.code
  match kind with
  | .general | .registry | .evaluation =>
    return wide kind (get "message") (get "code") (get "details")
  | .formulaSyntax =>
    return ⟨kind, get "message", code, .map [("position", get "position")]⟩
  | .composition => return wide kind (get "message") code (get "details")
  | .configuration => return ⟨kind, get "message", code, .map [("setting", get "setting")]⟩
  | .unknownFunction =>
    let name ← (get "name").plain
    return narrow kind (Failure.unknownFunction name).message [("function", get "name")]
  | .arity =>
    let message := (← (get "name").plain) ++ " expects " ++ (← (get "expected").plain) ++
      " argument(s), got " ++ (← (get "received").plain)
    return narrow kind message
      [("function", get "name"), ("expected", get "expected"), ("received", get "received")]
  | .divisionByZero =>
    return narrow kind (Failure.divisionByZero "").message [("operator", get "operator_id")]
  | .operatorNotFound =>
    let operator ← (get "operator_id").plain
    return narrow kind (Failure.operatorNotFound operator).message
      [("operator", get "operator_id")]
  | .duplicateOperator =>
    let name ← (get "name").plain
    return narrow kind (Failure.duplicateOperator name).message [("operator", get "name")]
  | .registryFrozen =>
    let operator ← (get "operator_id").plain
    return narrow kind (Failure.registryFrozen operator).message
      [("operator", get "operator_id")]

/-- The words of a statement. -/
def text (s : Statement) : Except Fault String := s.message.plain

/-- The details of a statement by name. -/
def entries (s : Statement) : Except Fault (List (String × Value)) :=
  match s.details with
  | .map entries => .ok entries
  | v =>
    .error (.declared (.other "AttributeError")
      ("'" ++ v.familyName ++ "' object has no attribute 'items'"))

/-- The report that a statement makes. -/
def report (s : Statement) : Except Fault Report := do
  return ⟨s.kind, ← s.text, ← s.code.plain, ← s.entries⟩

/-- The report of a kind that is stated with a single text. -/
def reportOfText (kind : FailureKind) (text : String) : Except Fault Report := do
  (← ofParts kind [.text text] []).report

end Statement

end RecordCalc
