/-
  Operators: what a formula or a pipeline can apply to values. An operator states the types and the
  number of its arguments, the laws it obeys and the names it is called by; its rule computes.
-/
import RecordCalc.Failure
import RecordCalc.Text.Case

namespace RecordCalc

/-- Categories of operators. -/
inductive Category
  | arithmetic | comparison | logical | text | aggregate | date | type | null
deriving DecidableEq, Repr

namespace Category

/-- All categories. -/
def all : List Category := [arithmetic, comparison, logical, text, aggregate, date, type, null]

/-- The name of a category. -/
def name : Category → String
  | arithmetic => "arithmetic"
  | comparison => "comparison"
  | logical => "logical"
  | text => "text"
  | aggregate => "aggregate"
  | date => "date"
  | type => "type"
  | null => "null"

/-- The category of a name. -/
def ofName (s : String) : Except Fault Category :=
  match all.find? (·.name == s) with
  | some c => .ok c
  | none => .error (.notAMember (Text.quoted s) "OperatorCategory")

/-- A category as it is shown in a listing. -/
def shown (c : Category) : String :=
  "<OperatorCategory." ++ Text.upper c.name ++ ": '" ++ c.name ++ "'>"

end Category

/-- Laws that an operator may declare. -/
inductive Law
  | associative | commutative | idempotent | involutory | identity | absorbing | distributive
deriving DecidableEq, Repr

namespace Law

/-- All laws. -/
def all : List Law :=
  [associative, commutative, idempotent, involutory, identity, absorbing, distributive]

/-- The name of a law. -/
def name : Law → String
  | associative => "associative"
  | commutative => "commutative"
  | idempotent => "idempotent"
  | involutory => "involutory"
  | identity => "identity"
  | absorbing => "absorbing"
  | distributive => "distributive"

/-- The law of a name. -/
def ofName (s : String) : Except Fault Law :=
  match all.find? (·.name == s) with
  | some l => .ok l
  | none => .error (.notAMember (Text.quoted s) "AlgebraicProperty")

end Law

/-- The sides on which an identity element may stand. -/
inductive IdentitySide
  | both | right
deriving DecidableEq, Repr

namespace IdentitySide

/-- The name of a side. -/
def name : IdentitySide → String
  | both => "both"
  | right => "right"

/-- The side of a name. -/
def ofName (s : String) : Except Fault IdentitySide :=
  if s = "both" then .ok both else if s = "right" then .ok right else .error (.badIdentitySide s)

end IdentitySide

/-- How many arguments an operator takes at most. -/
inductive Arity
  | fixed (n : Int)
  | variadic
deriving DecidableEq, Repr

/-- What an operator computes from its arguments. -/
abbrev Rule := List Value → Except Failure Value

/-- An operator. -/
structure Operator where
  id : String
  displayName : String
  symbol : String := id
  category : Category
  /-- The types of the arguments, none when there may be any number of any type. -/
  inputs : Option (List ValueType)
  output : ValueType
  arity : Arity
  minArity : Int := match arity with | .fixed n => n | .variadic => 0
  laws : List Law := []
  identity : Value := .null
  identitySide : IdentitySide := .both
  absorbing : Value := .null
  inverse : Option String := none
  description : String := ""
  examples : List (List Value × Value) := []
  aliases : List String := []
  /-- Whether the evaluator may leave arguments unevaluated. -/
  isLazy : Bool := false
  rule : Rule

namespace Operator

/-- Whether the operator takes any number of arguments. -/
def isVariadic (o : Operator) : Bool := o.arity == .variadic

/-- The type of the first argument, none for operators without one and for those of any types. -/
def firstInput? (o : Operator) : Option ValueType := o.inputs.bind (·.head?)

/-- Whether the operator declares a law. -/
def obeys (o : Operator) (law : Law) : Bool := o.laws.contains law

/-- Whether the operator takes that many arguments. -/
def accepts (o : Operator) (count : Int) : Bool :=
  o.minArity ≤ count && match o.arity with | .fixed n => count ≤ n | .variadic => true

/-- The number of arguments in words. -/
def arityText (o : Operator) : String :=
  match o.arity with
  | .variadic => "at least " ++ toString o.minArity
  | .fixed n =>
    if o.minArity = n then "exactly " ++ toString n else toString o.minArity ++ " to " ++ toString n

/-- Whether a text is a name as formulas write it; a line feed may end it. -/
def isIdentifier (s : String) : Bool :=
  match s.toList with
  | [] => false
  | c :: cs =>
    (c.isAlpha || c == '_') &&
      match cs.dropWhile (fun c => c.isAlphanum || c == '_') with
      | [] | ['\n'] => true
      | _ => false

/-- The names by which a formula calls the operator: its id, its symbol if that is a name, its
aliases, in upper case and each once. -/
def callNames (o : Operator) : List String :=
  (Text.upper o.id :: ((if isIdentifier o.symbol then [o.symbol] else []) ++ o.aliases).map
    Text.upper).eraseDups

/-- An argument as a call displays it: a text in double quotes as it is. -/
def argumentText : Value → Except Fault String
  | .text s => .ok ("\"" ++ s ++ "\"")
  | .null => .ok "NULL"
  | .bool b => .ok (if b then "TRUE" else "FALSE")
  | v => v.plain

/-- A call of the operator for display: a symbol that is no name stands between or before
arguments. -/
def callText (o : Operator) (args : List Value) : Except Fault String := do
  let texts ← args.mapM argumentText
  match isIdentifier o.symbol, texts with
  | false, [a, b] => return "(" ++ a ++ " " ++ o.symbol ++ " " ++ b ++ ")"
  | false, [a] => return "(" ++ o.symbol ++ a ++ ")"
  | _, _ => return o.symbol ++ "(" ++ Text.join ", " texts ++ ")"

end Operator

/-- An operator as it is declared, with names in place of members. -/
structure Declaration where
  id : String
  displayName : String
  /-- An empty symbol stands for the id. -/
  symbol : String
  category : String
  inputs : Option (List String)
  output : String
  arity : Arity
  minArity : Option Int
  laws : List String
  identity : Value
  identitySide : String
  absorbing : Value
  inverse : Option String
  description : String
  examples : List (List Value × Value)
  aliases : List String
  isLazy : Bool
  rule : Rule

/-- The declared operator; the first name that is unknown is the fault. -/
def Declaration.toOperator (d : Declaration) : Except Fault Operator := do
  let category ← Category.ofName d.category
  let inputs ←
    match d.inputs with
    | none => pure none
    | some names => some <$> names.mapM ValueType.ofName
  let output ← ValueType.ofName d.output
  let laws ← d.laws.mapM Law.ofName
  let identitySide ← IdentitySide.ofName d.identitySide
  return {
    id := d.id
    displayName := d.displayName
    symbol := if d.symbol.isEmpty then d.id else d.symbol
    category := category
    inputs := inputs
    output := output
    arity := d.arity
    minArity := d.minArity.getD (match d.arity with | .fixed n => n | .variadic => 0)
    laws := laws.eraseDups
    identity := d.identity
    identitySide := identitySide
    absorbing := d.absorbing
    inverse := d.inverse
    description := d.description
    examples := d.examples
    aliases := d.aliases
    isLazy := d.isLazy
    rule := d.rule }

end RecordCalc
