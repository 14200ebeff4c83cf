/-
  Expressions: literals, references to fields, calls of functions and applications of operators. The
  fields that an expression reads are listed in the order in which they stand in its text.
-/
import RecordCalc.Value.Basic

namespace RecordCalc

/-- Operators before an operand. -/
inductive UnaryOp
  | negate | plus | not
  /-- A symbol that is no such operator. -/
  | other (symbol : String)
deriving DecidableEq, Repr

namespace UnaryOp

/-- The symbol of an operator. -/
def symbol : UnaryOp → String
  | negate => "-"
  | plus => "+"
  | not => "!"
  | other symbol => symbol

/-- The operator of a symbol. -/
def ofSymbol (symbol : String) : UnaryOp :=
  ([negate, plus, not].find? (·.symbol == symbol)).getD (other symbol)

end UnaryOp

/-- Operators between two operands. -/
inductive BinaryOp
  | add | subtract | multiply | divide | modulo | power | concat
  | equal | notEqual | less | greater | lessEqual | greaterEqual
  /-- A symbol that is no such operator. -/
  | other (symbol : String)
deriving DecidableEq, Repr

namespace BinaryOp

/-- The operators of formulas. -/
def all : List BinaryOp :=
  [add, subtract, multiply, divide, modulo, power, concat, equal, notEqual, less, greater,
    lessEqual, greaterEqual]

/-- The symbol of an operator. -/
def symbol : BinaryOp → String
  | add => "+"
  | subtract => "-"
  | multiply => "*"
  | divide => "/"
  | modulo => "%"
  | power => "^"
  | concat => "&"
  | equal => "="
  | notEqual => "!="
  | less => "<"
  | greater => ">"
  | lessEqual => "<="
  | greaterEqual => ">="
  | other symbol => symbol

/-- The operator of a symbol. -/
def ofSymbol (symbol : String) : BinaryOp := (all.find? (·.symbol == symbol)).getD (other symbol)

end BinaryOp

/-- An expression. -/
inductive Expr
  | literal (v : Value)
  | field (name : String)
  | call (name : String) (args : List Expr)
  | unary (op : UnaryOp) (operand : Expr)
  | binary (op : BinaryOp) (left right : Expr)
  /-- A value where an expression should stand. -/
  | bare (v : Value)

instance : Inhabited Expr := ⟨.bare .null⟩

namespace Expr

mutual

/-- The references to fields from left to right. -/
def references : Expr → List String
  | literal _ | bare _ => []
  | field name => [name]
  | call _ args => referencesOf args
  | unary _ e => e.references
  | binary _ l r => l.references ++ r.references

/-- The references to fields in a list of expressions. -/
def referencesOf : List Expr → List String
  | [] => []
  | e :: es => e.references ++ referencesOf es

end

/-- The fields that an expression reads, each once, in the order of their first references. -/
def fields (e : Expr) : List String := e.references.eraseDups

end Expr

end RecordCalc
