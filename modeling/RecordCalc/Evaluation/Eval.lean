/-
  Evaluation of expressions against a record, in one of two regimes for missing data. In the legacy
  regime missing data counts as zero or empty. In the Codd regime it goes through arithmetic as
  nothing, makes comparisons unknown, and logic has three values. `eval` descends a bounded number
  of levels.
-/
import RecordCalc.Evaluation.Run
import RecordCalc.Formula.Expr
import RecordCalc.Value.Cell
import RecordCalc.Value.Compare
import RecordCalc.Value.Kept

namespace RecordCalc

/-- Regimes for missing data. -/
inductive NullMode
  | legacy | codd
deriving DecidableEq, Repr

namespace NullMode

/-- The name of a regime. -/
def name : NullMode → String
  | legacy => "legacy"
  | codd => "codd"

/-- The regime of a name. -/
def ofName? (s : String) : Option NullMode :=
  if s = "legacy" then some legacy else if s = "codd" then some codd else none

end NullMode

/-- A record: the raw value of each field that it has. -/
abbrev Record := List (String × Value)

/-- The raw value that a record keeps for a field, nothing for a field that it lacks. -/
def Record.get (r : Record) (name : String) : Value :=
  ((Value.lookup r name).getD .null).keptBy (.field name)

/-- An evaluator: the operators it knows and its treatment of missing data. -/
structure Evaluator where
  registry : Registry
  mode : NullMode
  /-- Whether the empty text counts as missing. -/
  emptyTextIsAbsent : Bool

/-- The ids of the operators whose operands are converted before their rule. -/
def arithmeticIds : List String := ["ADD", "SUBTRACT", "MULTIPLY", "DIVIDE", "MODULO", "POWER"]

/-- The id of the operator that a symbol between operands stands for. -/
def BinaryOp.operatorId? : BinaryOp → Option String
  | add => some "ADD"
  | subtract => some "SUBTRACT"
  | multiply => some "MULTIPLY"
  | divide => some "DIVIDE"
  | modulo => some "MODULO"
  | power => some "POWER"
  | concat => some "CONCAT"
  | equal => some "EQUAL"
  | notEqual => some "NOT_EQUAL"
  | less => some "LESS_THAN"
  | greater => some "GREATER_THAN"
  | lessEqual => some "LESS_EQUAL"
  | greaterEqual => some "GREATER_EQUAL"
  | other _ => none

namespace Evaluator

/-! ## Missing data -/

/-- Whether the regime is that of three-valued logic. -/
def isCodd (ev : Evaluator) : Bool := ev.mode == .codd

/-- Whether a value counts as missing. -/
def isMissing (ev : Evaluator) (v : Value) : Bool := v.isUnknown || v.isAbsent ev.emptyTextIsAbsent

/-- An operand of arithmetic in the Codd regime: a date, a number, or nothing. -/
def strictOperand (ev : Evaluator) (v : Value) : Value :=
  if ev.isMissing v then .null else if v.isDate then v else .ofNumber? v.toNumber?

/-- The truth of a value in three-valued logic. -/
def truth (ev : Evaluator) (v : Value) : Truth := v.truth ev.emptyTextIsAbsent

/-- Whether a condition holds. -/
def holds (ev : Evaluator) (v : Value) : Bool :=
  if ev.isCodd then ev.truth v == .yes else v.toBoolean

/-! ## Applying operators -/

/-- Applies the rule of an operator; in the Codd regime a division by zero has no value. -/
def apply (ev : Evaluator) (o : Operator) (args : List Value) : Run Value :=
  let r := Run.applyRule o args
  match r.outcome with
  | .error f => if ev.isCodd && f.isKind .divisionByZero then ⟨.ok .null, r.uses⟩ else r
  | .ok _ => r

/-- Applies an arithmetic operator. -/
def arithmetic (ev : Evaluator) (o : Operator) (a b : Value) : Run Value :=
  if ev.isCodd then
    match ev.strictOperand a, ev.strictOperand b with
    | .null, _ | _, .null => .done .null
    | a, b => ev.apply o [a, b]
  else ev.apply o [a, b]

/-- Applies a comparison. -/
def comparison (ev : Evaluator) (o : Operator) (a b : Value) : Run Value :=
  if ev.isCodd && (ev.isMissing a || ev.isMissing b) then .done .unknown else ev.apply o [a, b]

/-- Applies an operator between operands. -/
def applyBinary (ev : Evaluator) (op : BinaryOp) (a b : Value) : Run Value :=
  match op.operatorId? with
  | none => .fail (.unknownBinary op.symbol)
  | some id => do
    let o ← Run.ofExcept (ev.registry.get id)
    if arithmeticIds.contains id then ev.arithmetic o a b
    else if o.category = .comparison then ev.comparison o a b
    else ev.apply o [a, b]

/-- Applies an operator before an operand. -/
def applyUnary (ev : Evaluator) (op : UnaryOp) (v : Value) : Run Value :=
  match op with
  | .negate =>
    if ev.isCodd then
      match ev.strictOperand v with
      | .null => .done .null
      | v => do ev.apply (← Run.ofExcept (ev.registry.get "NEGATE")) [v]
    else do ev.apply (← Run.ofExcept (ev.registry.get "NEGATE")) [v]
  | .plus => .done (if ev.isCodd then ev.strictOperand v else .number v.toNumber)
  | .not =>
    if ev.isCodd then .done (ev.truth v).not.toValue
    else do ev.apply (← Run.ofExcept (ev.registry.get "NOT")) [v]
  | .other symbol => .fail (.unknownUnary symbol)

/-- Applies an operator called by name to evaluated arguments. -/
def applyCall (ev : Evaluator) (o : Operator) (args : List Value) : Run Value :=
  match arithmeticIds.contains o.id, args with
  | true, [a, b] => ev.arithmetic o a b
  | _, args =>
    if o.category = .comparison then
      match args with
      | a :: b :: _ => ev.comparison o a b
      | _ => .fail (.fault (.missingArgument false))
    else if o.id = "NOT" && ev.isCodd then
      match args with
      | a :: _ => .done (ev.truth a).not.toValue
      | [] => .fail (.fault (.missingArgument false))
    else ev.apply o args

/-! ## Functions that may leave arguments unevaluated -/

/-- The condition, then one branch; nothing when the branch is missing. -/
def chooseBranch (ev : Evaluator) (eval : Expr → Run Value) : List Expr → Run Value
  | condition :: branches => do
    if ev.holds (← eval condition) then
      match branches with
      | yes :: _ => eval yes
      | [] => .fail (.fault (.missingArgument true))
    else
      match branches with
      | _ :: no :: _ => eval no
      | _ => return .null
  | [] => .fail (.fault (.missingArgument true))

/-- Whether all arguments are true in two-valued logic, up to the first that is not. -/
def allTrue (eval : Expr → Run Value) : List Expr → Run Value
  | [] => .done (.bool true)
  | e :: es => do if (← eval e).toBoolean then allTrue eval es else return .bool false

/-- Whether an argument is true in two-valued logic, up to the first that is. -/
def anyTrue (eval : Expr → Run Value) : List Expr → Run Value
  | [] => .done (.bool false)
  | e :: es => do if (← eval e).toBoolean then return .bool true else anyTrue eval es

/-- Conjunction in three-valued logic, up to the first argument that is false; `sofar` is that of
the arguments before. -/
def conjunction (ev : Evaluator) (eval : Expr → Run Value) (sofar : Truth) : List Expr → Run Value
  | [] => .done sofar.toValue
  | e :: es => do
    match ev.truth (← eval e) with
    | .no => return .bool false
    | t => conjunction ev eval (sofar.and t) es

/-- Disjunction in three-valued logic, up to the first argument that is true; `sofar` is that of the
arguments before. -/
def disjunction (ev : Evaluator) (eval : Expr → Run Value) (sofar : Truth) : List Expr → Run Value
  | [] => .done sofar.toValue
  | e :: es => do
    match ev.truth (← eval e) with
    | .yes => return .bool true
    | t => disjunction ev eval (sofar.or t) es

/-- The evaluation of a lazy operator on its unevaluated arguments, none for any other id. -/
def lazy? (ev : Evaluator) (id : String) :
    Option ((Expr → Run Value) → List Expr → Run Value) :=
  if id = "IF" then some ev.chooseBranch
  else if id = "AND" then some (if ev.isCodd then fun eval => ev.conjunction eval .yes else allTrue)
  else if id = "OR" then some (if ev.isCodd then fun eval => ev.disjunction eval .no else anyTrue)
  else if id = "AND3" then some fun eval => ev.conjunction eval .yes
  else if id = "OR3" then some fun eval => ev.disjunction eval .no
  else none

/-! ## Expressions -/

/-- Evaluates expressions from left to right. -/
def evalAll (eval : Expr → Run Value) : List Expr → Run (List Value)
  | [] => .done []
  | e :: es => do return (← eval e) :: (← evalAll eval es)

/-- Evaluates a call of a function by name. -/
def evalCall (ev : Evaluator) (eval : Expr → Run Value) (name : String) (args : List Expr) :
    Run Value :=
  match ev.registry.resolve? name with
  | none => .fail (.unknownFunction name)
  | some o =>
    if !o.accepts args.length then .fail (.arity name o.arityText args.length)
    else
      match if o.isLazy then ev.lazy? o.id else none with
      | some run => run eval args
      | none => do ev.applyCall o (← evalAll eval args)

/-- Evaluates an expression, given how its parts are evaluated. -/
def evalStep (ev : Evaluator) (record : Record) (eval : Expr → Run Value) : Expr → Run Value
  | .literal v => .done v
  | .field name => Run.ofFaulty (record.get name).resolveCell
  | .call name args => ev.evalCall eval name args
  | .binary op l r => do
    let a ← eval l
    let b ← eval r
    ev.applyBinary op a b
  | .unary op e => do ev.applyUnary op (← eval e)
  | .bare v => .fail (.notAnExpression v.kindName)

/-- Evaluates an expression of at most the given number of levels. -/
def evalWithin (ev : Evaluator) (record : Record) : (levels : Nat) → Expr → Run Value
  | 0, _ => .fail .nestingTooDeep
  | n + 1, e => ev.evalStep record (ev.evalWithin record n) e

/-- The most levels of an expression that are evaluated. -/
def levelLimit : Nat := 400

/-- Evaluates an expression against a record. -/
def eval (ev : Evaluator) (record : Record) (e : Expr) : Run Value :=
  ev.evalWithin record levelLimit e

end Evaluator

end RecordCalc
