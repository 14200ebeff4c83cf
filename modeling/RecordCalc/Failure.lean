/-
  Failures: what can go wrong in reading, evaluating and composing formulas. A failure that the
  library declares has a report: its kind, a message, a code for machines and details by name. The
  others are faults of an operation, which the evaluator turns into failures where an operator's
  rule raised them, and formulas nested deeper than can be evaluated.
-/
import RecordCalc.Value.Shown

namespace RecordCalc

/-! ## Kinds and reports -/

/-- Kinds of declared failures. -/
inductive FailureKind
  | general
  | formulaSyntax
  | evaluation
  | unknownFunction
  | arity
  | divisionByZero
  | composition
  | registry
  | operatorNotFound
  | duplicateOperator
  | registryFrozen
  | configuration
deriving DecidableEq, Repr

namespace FailureKind

/-- All kinds. -/
def all : List FailureKind :=
  [general, formulaSyntax, evaluation, unknownFunction, arity, divisionByZero, composition,
    registry, operatorNotFound, duplicateOperator, registryFrozen, configuration]

/-- The name of a kind. -/
def name : FailureKind → String
  | general => "TabFormulaException"
  | formulaSyntax => "FormulaSyntaxError"
  | evaluation => "EvaluationError"
  | unknownFunction => "UnknownFunctionError"
  | arity => "ArityError"
  | divisionByZero => "DivisionByZeroError"
  | composition => "CompositionError"
  | registry => "RegistryError"
  | operatorNotFound => "OperatorNotFoundError"
  | duplicateOperator => "DuplicateOperatorError"
  | registryFrozen => "RegistryFrozenError"
  | configuration => "ConfigurationError"

/-- The kind and the kinds that it belongs to, from the narrowest to the widest. -/
def ancestry : FailureKind → List FailureKind
  | general => [general]
  | unknownFunction => [unknownFunction, evaluation, general]
  | arity => [arity, evaluation, general]
  | divisionByZero => [divisionByZero, evaluation, general]
  | operatorNotFound => [operatorNotFound, registry, general]
  | duplicateOperator => [duplicateOperator, registry, general]
  | registryFrozen => [registryFrozen, registry, general]
  | kind => [kind, general]

/-- The code of a kind that states none; the wide kinds go by their name. -/
def code : FailureKind → String
  | formulaSyntax => "FORMULA_SYNTAX_ERROR"
  | evaluation => "EVALUATION_ERROR"
  | unknownFunction => "UNKNOWN_FUNCTION"
  | arity => "ARITY_MISMATCH"
  | divisionByZero => "DIVISION_BY_ZERO"
  | composition => "COMPOSITION_ERROR"
  | operatorNotFound => "OPERATOR_NOT_FOUND"
  | duplicateOperator => "DUPLICATE_OPERATOR"
  | registryFrozen => "REGISTRY_FROZEN"
  | configuration => "CONFIGURATION_ERROR"
  | general => general.name
  | registry => registry.name

end FailureKind

/-- What a declared failure tells. -/
structure Report where
  kind : FailureKind
  message : String
  code : String
  details : List (String × Value)

/-! ## Causes -/

/-- Causes of syntax errors. -/
inductive SyntaxCause
  | empty
  | unknownIdentifier (name : String)
  | unexpectedToken (text : String)
  | unexpectedCharacter (c : Char)
  | unterminatedText
  | unterminatedField
  | missingParenthesis
  | unexpectedEnd
deriving DecidableEq, Repr

/-- A syntax error and the place of the character where it was found. -/
structure SyntaxError where
  cause : SyntaxCause
  position : Nat
deriving DecidableEq, Repr

/-- The words of a syntax error. -/
def SyntaxError.message (e : SyntaxError) : String :=
  let place := " at position " ++ toString e.position
  match e.cause with
  | .empty => "Formula is empty"
  | .unknownIdentifier name => "Unknown identifier '" ++ name ++ "'"
  | .unexpectedToken text => "Unexpected token '" ++ text ++ "'" ++ place
  | .unexpectedCharacter c => "Unexpected character '" ++ String.ofList [c] ++ "'" ++ place
  | .unterminatedText => "Unterminated string starting" ++ place
  | .unterminatedField => "Unterminated field reference starting" ++ place
  | .missingParenthesis => "Missing closing parenthesis"
  | .unexpectedEnd => "Unexpected end of formula"

/-- Causes of failures. -/
inductive Failure
  | formulaSyntax (e : SyntaxError)
  /-- A value stands where an expression is expected. -/
  | notAnExpression (kindName : String)
  | unknownBinary (symbol : String)
  | unknownUnary (symbol : String)
  | unknownFunction (name : String)
  | arity (name expected : String) (received : Nat)
  | divisionByZero (operator : String)
  /-- The rule of an operator came to a fault. -/
  | ruleFault (displayName operator : String) (cause : Fault)
  /-- A rule gave up with a text of its own. -/
  | evaluation (text : String)
  | composition (text : String)
  | notAStep (shown : String)
  | stepWithoutOperator (shown : String)
  /-- A step refers to a value that is not there; `reference` is the index as the step gives it. -/
  | unavailableReference (operator : String) (reference : Value) (available : Nat)
  | operatorNotFound (id : String)
  | duplicateOperator (name : String)
  | registryFrozen (id : String)
  | invalidNullMode (shown : String)
  | invalidCacheSize (size : Int)
  /-- A rule gave up with a report of its own. -/
  | reported (r : Report)
  | nestingTooDeep
  | fault (f : Fault)

namespace Failure

/-- A reference in words: a truth value by its name, an integer by its digits. -/
def referenceText : Value → String
  | .bool b => if b then "True" else "False"
  | .number (.int n) => toString n
  | _ => ""

/-- The kind of a failure, none when it is not declared. -/
def kind? : Failure → Option FailureKind
  | formulaSyntax _ => some .formulaSyntax
  | notAnExpression _ | unknownBinary _ | unknownUnary _ | ruleFault .. | evaluation _ =>
    some .evaluation
  | unknownFunction _ => some .unknownFunction
  | arity .. => some .arity
  | divisionByZero _ => some .divisionByZero
  | composition _ | notAStep _ | stepWithoutOperator _ | unavailableReference .. =>
    some .composition
  | operatorNotFound _ => some .operatorNotFound
  | duplicateOperator _ => some .duplicateOperator
  | registryFrozen _ => some .registryFrozen
  | invalidNullMode _ | invalidCacheSize _ => some .configuration
  | reported r => some r.kind
  | nestingTooDeep | fault _ => none

/-- The words of a failure. -/
def message : Failure → String
  | formulaSyntax e => e.message
  | notAnExpression kindName => "Unknown node type: " ++ kindName
  | unknownBinary symbol => "Unknown operator: " ++ symbol
  | unknownUnary symbol => "Unknown unary operator: " ++ symbol
  | unknownFunction name => "Unknown function: " ++ name
  | arity name expected received =>
    name ++ " expects " ++ expected ++ " argument(s), got " ++ toString received
  | divisionByZero _ => "Division by zero"
  | ruleFault displayName _ cause => displayName ++ " failed: " ++ cause.message
  | evaluation text => text
  | composition text => text
  | notAStep shown => "Invalid pipeline step: " ++ shown
  | stepWithoutOperator _ => "Pipeline step has no operator id"
  | unavailableReference operator reference available =>
    "Reference " ++ referenceText reference ++ " in " ++ operator ++ " is not available (only " ++
      toString available ++ " values so far)"
  | operatorNotFound id => "Unknown operator: " ++ id
  | duplicateOperator name => "Operator '" ++ name ++ "' is already registered"
  | registryFrozen id => "Cannot register '" ++ id ++ "': registry is frozen"
  | invalidNullMode shown => "Invalid null mode: " ++ shown
  | invalidCacheSize size => "Parse cache size must be at least 1, got " ++ toString size
  | reported r => r.message
  | nestingTooDeep => "Formula is nested too deeply to evaluate"
  | fault f => f.message

/-- The details of a failure. -/
def details : Failure → List (String × Value)
  | formulaSyntax e => [("position", .int e.position)]
  | unknownFunction name => [("function", .text name)]
  | arity name expected received =>
    [("function", .text name), ("expected", .text expected), ("received", .int received)]
  | divisionByZero operator => [("operator", .text operator)]
  | ruleFault _ operator _ => [("operator", .text operator)]
  | stepWithoutOperator shown => [("step", .text shown)]
  | unavailableReference operator reference _ =>
    [("operator_id", .text operator), ("ref", reference)]
  | operatorNotFound id | duplicateOperator id | registryFrozen id => [("operator", .text id)]
  | invalidNullMode _ => [("setting", .text "null_mode")]
  | invalidCacheSize _ => [("setting", .text "parse_cache_size")]
  | reported r => r.details
  | notAnExpression _ | unknownBinary _ | unknownUnary _ | evaluation _ | composition _ | notAStep _
  | nestingTooDeep | fault _ => []

/-- The report of a failure, none when it is not declared. -/
def report? : Failure → Option Report
  | reported r => some r
  | f => f.kind?.map fun kind => ⟨kind, f.message, kind.code, f.details⟩

/-- Whether a failure belongs to a kind. -/
def isKind (f : Failure) (kind : FailureKind) : Bool :=
  (f.kind?.map (·.ancestry.contains kind)).getD false

end Failure

end RecordCalc
