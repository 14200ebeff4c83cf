/-
  Reading formulas. The tokens are taken one by one; what is still open is kept as a stack of
  brackets, each with the operands that wait for their right neighbour. From the loosest to the
  tightest: comparisons, then `+ - &`, then `* / %`, all to the left, then `^` to the right, then
  the operators before an operand. A number or a name is settled by the token that follows it.
-/
import RecordCalc.Formula.Expr
import RecordCalc.Formula.Token
import RecordCalc.Text.Case

namespace RecordCalc.Formula

/-! ## Literals -/

/-- A text with its escapes resolved. -/
def unescape : List Char → List Char
  | '\\' :: c :: rest =>
    (if c == 'n' then '\n' else if c == 't' then '\t' else if c == 'r' then '\r' else c) ::
      unescape rest
  | c :: rest => c :: unescape rest
  | [] => []

/-- The literal of a numeral: an integer when its value is one. A run of digits is exact and has at
most as many digits as are read. -/
def numeralLiteral (n : Numeral) : Except Failure Expr :=
  if n.isWhole then
    if Fault.digitLimit < n.whole.length then
      .error (.fault (.tooManyDigitsToRead n.whole.length))
    else .ok (.literal (.int (Text.digitsValue n.whole)))
  else
    let x := Binary64.ofDecimal false n.decimal
    .ok (.literal
      (match Binary64.isIntegral x, Binary64.trunc? x with
      | true, some i => .int i
      | _, _ => .float x))

/-- The literal of a name that stands alone. -/
def nameLiteral (letters : List Char) (position : Nat) : Except Failure Expr :=
  let word := letters.map Char.toUpper
  if word = "TRUE".toList then .ok (.literal (.bool true))
  else if word = "FALSE".toList then .ok (.literal (.bool false))
  else .error (.formulaSyntax ⟨.unknownIdentifier (String.ofList letters), position⟩)

/-- The name of a function as a call carries it. -/
def callName (letters : List Char) : String := String.ofList (letters.map Char.toUpper)

/-! ## Operators -/

/-- The ranks of operators between operands, from the loosest to the tightest. -/
inductive Rank
  | comparison | sum | product | power
deriving DecidableEq, Repr

/-- The operator between operands that a symbol denotes, with its rank. -/
def Symbol.infix? : Symbol → Option (Rank × BinaryOp)
  | plus => some (.sum, .add)
  | minus => some (.sum, .subtract)
  | ampersand => some (.sum, .concat)
  | star => some (.product, .multiply)
  | slash => some (.product, .divide)
  | percent => some (.product, .modulo)
  | caret => some (.power, .power)
  | equal => some (.comparison, .equal)
  | notEqual _ => some (.comparison, .notEqual)
  | less => some (.comparison, .less)
  | greater => some (.comparison, .greater)
  | lessEqual => some (.comparison, .lessEqual)
  | greaterEqual => some (.comparison, .greaterEqual)
  | bang | opening | closing | comma => none

/-- The operator before an operand that a symbol denotes. -/
def Symbol.leading? : Symbol → Option UnaryOp
  | minus => some .negate
  | plus => some .plus
  | bang => some .not
  | _ => none

/-- A left operand that waits, with the operator after it. -/
abbrev Waiting := Option (Expr × BinaryOp)

/-- The operands of one bracket that wait for their right neighbour. -/
structure Pending where
  comparison : Waiting
  sum : Waiting
  product : Waiting
  /-- Bases of powers, the innermost first. -/
  powers : List Expr
  /-- Operators before the operand to come, the innermost first. -/
  leading : List UnaryOp

namespace Pending

/-- Nothing waits. -/
def empty : Pending := ⟨none, none, none, [], []⟩

/-- A waiting operand joined with its right neighbour. -/
def join (w : Waiting) (e : Expr) : Expr :=
  match w with
  | none => e
  | some (l, op) => .binary op l e

/-- The operand with the operators before it. -/
def unary (p : Pending) (e : Expr) : Expr := p.leading.foldl (fun e op => .unary op e) e

/-- The power that ends with an operand. -/
def power (p : Pending) (e : Expr) : Expr :=
  p.powers.foldl (fun e base => .binary .power base e) (p.unary e)

/-- The product that ends with an operand. -/
def closeProduct (p : Pending) (e : Expr) : Expr := join p.product (p.power e)

/-- The sum that ends with an operand. -/
def closeSum (p : Pending) (e : Expr) : Expr := join p.sum (p.closeProduct e)

/-- The comparison that ends with an operand. -/
def close (p : Pending) (e : Expr) : Expr := join p.comparison (p.closeSum e)

/-- What waits after an operand and an operator between operands. -/
def push (p : Pending) (e : Expr) (rank : Rank) (op : BinaryOp) : Pending :=
  match rank with
  | .power => { p with powers := p.unary e :: p.powers, leading := [] }
  | .product => { p with product := some (p.closeProduct e, op), powers := [], leading := [] }
  | .sum => { p with sum := some (p.closeSum e, op), product := none, powers := [], leading := [] }
  | .comparison =>
    ⟨some (p.close e, op), none, none, [], []⟩

end Pending

/-! ## The reader -/

/-- An open bracket. -/
inductive Bracket
  | group
  /-- The arguments of a call, those read so far in reverse order. -/
  | call (name : String) (args : List Expr)

/-- What the last token left behind. -/
inductive Phase
  /-- An operand has to follow, or the end of a call that was just opened. -/
  | wanting (justOpened : Bool)
  | numeral (n : Numeral)
  | name (letters : List Char) (position : Nat)
  | operand (e : Expr)

/-- A state of reading. -/
structure Reading where
  /-- The open brackets, the innermost first, each with what waits outside it. -/
  brackets : List (Pending × Bracket)
  pending : Pending
  phase : Phase

namespace Reading

/-- The state before the first token. -/
def start : Reading := ⟨[], .empty, .wanting false⟩

/-- The syntax error of a token that may not stand where it does. -/
def unexpected (t : Located) : Failure :=
  .formulaSyntax ⟨.unexpectedToken (String.ofList t.token.chars), t.position⟩

/-- The state after a token that follows a complete operand. -/
def afterOperand (r : Reading) (e : Expr) (t : Located) : Except Failure Reading :=
  match t.token with
  | .symbol .closing =>
    match r.brackets with
    | (outer, .group) :: rest => .ok ⟨rest, outer, .operand (r.pending.close e)⟩
    | (outer, .call name args) :: rest =>
      .ok ⟨rest, outer, .operand (.call name (r.pending.close e :: args).reverse)⟩
    | [] => .error (unexpected t)
  | .symbol .comma =>
    match r.brackets with
    | (outer, .call name args) :: rest =>
      .ok ⟨(outer, .call name (r.pending.close e :: args)) :: rest, .empty, .wanting false⟩
    | _ => .error (unexpected t)
  | .symbol s =>
    match s.infix? with
    | some (rank, op) => .ok { r with pending := r.pending.push e rank op, phase := .wanting false }
    | none => .error (unexpected t)
  | _ => .error (unexpected t)

/-- The state after a token where an operand has to follow. -/
def beforeOperand (r : Reading) (justOpened : Bool) (t : Located) : Except Failure Reading :=
  match t.token with
  | .numeral n => .ok { r with phase := .numeral n }
  | .name letters => .ok { r with phase := .name letters t.position }
  | .text _ body =>
    .ok { r with phase := .operand (.literal (.text (String.ofList (unescape body)))) }
  | .field body =>
    .ok { r with phase := .operand (.field (String.ofList (Text.trimChars body))) }
  | .symbol .opening => .ok ⟨(r.pending, .group) :: r.brackets, .empty, .wanting false⟩
  | .symbol .closing =>
    match justOpened, r.brackets with
    | true, (outer, .call name args) :: rest =>
      .ok ⟨rest, outer, .operand (.call name args.reverse)⟩
    | _, _ => .error (unexpected t)
  | .symbol s =>
    match s.leading? with
    | some op =>
      .ok { r with
        pending := { r.pending with leading := op :: r.pending.leading }, phase := .wanting false }
    | none => .error (unexpected t)

/-- Whether a token may follow an operand: an operator, a closing bracket or a comma. -/
def mayFollow (t : Token) : Bool :=
  match t with
  | .symbol .closing | .symbol .comma => true
  | .symbol s => s.infix?.isSome
  | _ => false

/-- The state after one more token. -/
def step (r : Reading) (t : Located) : Except Failure Reading :=
  match r.phase with
  | .wanting justOpened => r.beforeOperand justOpened t
  | .operand e => r.afterOperand e t
  | .numeral n =>
    if mayFollow t.token then do r.afterOperand (← numeralLiteral n) t else .error (unexpected t)
  | .name letters position =>
    if t.token = .symbol .opening then
      .ok ⟨(r.pending, .call (callName letters) []) :: r.brackets, .empty, .wanting true⟩
    else if mayFollow t.token then do r.afterOperand (← nameLiteral letters position) t
    else .error (unexpected t)

/-- The expression that ends with an operand at the end of a text of the given length. -/
def endOperand (r : Reading) (e : Expr) (length : Nat) : Except Failure Expr :=
  if r.brackets.isEmpty then .ok (r.pending.close e)
  else .error (.formulaSyntax ⟨.missingParenthesis, length⟩)

/-- The expression read when the text ends here. -/
def finish (r : Reading) (length : Nat) : Except Failure Expr :=
  match r.phase with
  | .wanting true => .error (.formulaSyntax ⟨.missingParenthesis, length⟩)
  | .wanting false => .error (.formulaSyntax ⟨.unexpectedEnd, length⟩)
  | .operand e => r.endOperand e length
  | .numeral n => do r.endOperand (← numeralLiteral n) length
  | .name letters position => do r.endOperand (← nameLiteral letters position) length

/-- Reads tokens to their end. -/
def run (r : Reading) (length : Nat) (stop : Option (Nat × Char)) :
    List Located → Except Failure Expr
  | [] =>
    match stop with
    | some (position, c) => .error (.formulaSyntax (stopError position c))
    | none => r.finish length
  | t :: rest => do (← r.step t).run length stop rest

end Reading

/-- A text with a leading equals sign, which may follow blanks, replaced by a space. -/
def blankEquals (cs : List Char) : List Char :=
  match Text.trimStart cs with
  | '=' :: rest => cs.takeWhile Text.isBlank ++ ' ' :: rest
  | _ => cs

/-- Reads a formula. -/
def parse (formula : String) : Except Failure Expr :=
  let cs := blankEquals formula.toList
  if cs.all Text.isBlank then .error (.formulaSyntax ⟨.empty, 0⟩)
  else
    let ts := tokens cs
    Reading.start.run cs.length ts.stop ts.located

end RecordCalc.Formula
