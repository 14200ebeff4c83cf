import Mathlib.Data.List.Basic
import RecordCalc.Formula.Parser

/-
  The grammar of formulas: which expressions a list of tokens stands for (`Derives`). A name that
  stands alone is one of the two truth values.
-/

namespace RecordCalc

/-- Whether the numeral has no more digits than are read, should it be an integer. -/
def Numeral.IsReadable (n : Numeral) : Prop :=
  n.isWhole = true → n.whole.length ≤ Fault.digitLimit

/-- The value that a numeral denotes: a run of digits its integer, any other numeral its nearest
floating-point number, as an integer when it is one. -/
def Numeral.denoted (n : Numeral) : Value :=
  if n.isWhole then .int (Text.digitsValue n.whole)
  else
    let x := Binary64.ofDecimal false n.decimal
    match Binary64.isIntegral x, Binary64.trunc? x with
    | true, some i => .int i
    | _, _ => .float x

namespace Formula

/-- The levels of the grammar, from the loosest to the tightest. -/
inductive Level
  | comparison | sum | product | power | unary | primary
deriving DecidableEq

namespace Level

/-- The next tighter level. -/
def next? : Level → Option Level
  | comparison => some sum
  | sum => some product
  | product => some power
  | power => some unary
  | unary => some primary
  | primary => none

/-- The operators of a level that group to the left. -/
def operators : Level → List (Symbol × BinaryOp)
  | comparison =>
    [(.equal, .equal), (.notEqual false, .notEqual), (.notEqual true, .notEqual), (.less, .less),
      (.greater, .greater), (.lessEqual, .lessEqual), (.greaterEqual, .greaterEqual)]
  | sum => [(.plus, .add), (.minus, .subtract), (.ampersand, .concat)]
  | product => [(.star, .multiply), (.slash, .divide), (.percent, .modulo)]
  | power | unary | primary => []

end Level

/-- The operators before an operand. -/
def leadingOperators : List (Symbol × UnaryOp) :=
  [(.minus, .negate), (.plus, .plus), (.bang, .not)]

/-- Lists of tokens with commas between them. -/
def separated : List (List Token) → List Token := List.intercalate [.symbol .comma]

/-- The expressions that a list of tokens stands for at a level. -/
inductive Derives : Level → List Token → Expr → Prop
  | next {level tighter : Level} {ts : List Token} {e : Expr} : level.next? = some tighter →
      Derives tighter ts e → Derives level ts e
  | left {level tighter : Level} {ts us : List Token} {l r : Expr} {s : Symbol} {op : BinaryOp} :
      level.next? = some tighter → (s, op) ∈ level.operators → Derives level ts l →
      Derives tighter us r → Derives level (ts ++ .symbol s :: us) (.binary op l r)
  | power {ts us : List Token} {l r : Expr} : Derives .unary ts l → Derives .power us r →
      Derives .power (ts ++ .symbol .caret :: us) (.binary .power l r)
  | unary {ts : List Token} {e : Expr} {s : Symbol} {op : UnaryOp} :
      (s, op) ∈ leadingOperators → Derives .unary ts e →
      Derives .unary (.symbol s :: ts) (.unary op e)
  | numeral (n : Numeral) : Derives .primary [.numeral n] (.literal n.denoted)
  | text (quote : Char) (body : List Char) :
      Derives .primary [.text quote body] (.literal (.text (String.ofList (unescape body))))
  | field (body : List Char) :
      Derives .primary [.field body] (.field (String.ofList (Text.trimChars body)))
  | yes {letters : List Char} : letters.map Char.toUpper = "TRUE".toList →
      Derives .primary [.name letters] (.literal (.bool true))
  | no {letters : List Char} : letters.map Char.toUpper = "FALSE".toList →
      Derives .primary [.name letters] (.literal (.bool false))
  | call (letters : List Char) {args : List (List Token × Expr)} :
      (∀ arg ∈ args, Derives .comparison arg.1 arg.2) →
      Derives .primary
        (.name letters :: .symbol .opening :: separated (args.map (·.1)) ++ [.symbol .closing])
        (.call (String.ofList (letters.map Char.toUpper)) (args.map (·.2)))
  | group {ts : List Token} {e : Expr} : Derives .comparison ts e →
      Derives .primary (.symbol .opening :: ts ++ [.symbol .closing]) e

/-! ## Operators and literals -/

/-- The level of the operators of a rank. -/
def Rank.level : Rank → Level
  | .comparison => .comparison
  | .sum => .sum
  | .product => .product
  | .power => .power

theorem infix?_of_mem {level : Level} {s : Symbol} {op : BinaryOp}
    (h : (s, op) ∈ level.operators) :
    ∃ rank, rank.level = level ∧ rank ≠ .power ∧ s.infix? = some (rank, op) := by
  have hall : ∀ rank ∈ [Rank.comparison, .sum, .product], ∀ o ∈ rank.level.operators,
      o.1.infix? = some (rank, o.2) := by decide
  cases level with
  | comparison => exact ⟨.comparison, rfl, by decide, hall .comparison (by decide) _ h⟩
  | sum => exact ⟨.sum, rfl, by decide, hall .sum (by decide) _ h⟩
  | product => exact ⟨.product, rfl, by decide, hall .product (by decide) _ h⟩
  | power | unary | primary => cases h

theorem mem_of_infix? {rank : Rank} {s : Symbol} {op : BinaryOp}
    (h : s.infix? = some (rank, op)) :
    (s, op) ∈ rank.level.operators ∨ rank = .power ∧ s = .caret ∧ op = .power := by
  cases s with
  | notEqual angled => cases angled <;> cases h <;> decide
  | bang | opening | closing | comma => cases h
  | _ => cases h; decide

theorem mem_leadingOperators {s : Symbol} {op : UnaryOp} :
    (s, op) ∈ leadingOperators ↔ s.leading? = some op := by
  constructor
  · have hall : ∀ o ∈ leadingOperators, o.1.leading? = some o.2 := by decide
    exact hall _
  · intro h
    cases s with
    | minus | plus | bang => cases h; decide
    | _ => cases h

theorem numeralLiteral_eq {n : Numeral} (h : n.IsReadable) :
    numeralLiteral n = .ok (.literal n.denoted) := by
  unfold numeralLiteral Numeral.denoted
  split
  · next hwhole => rw [if_neg (Nat.not_lt.2 (h hwhole))]
  · rfl

theorem derives_of_numeralLiteral {n : Numeral} {e : Expr} (h : numeralLiteral n = .ok e) :
    Derives .primary [.numeral n] e := by
  have hread : n.IsReadable := by
    intro hwhole
    by_contra hlimit
    rw [numeralLiteral, if_pos hwhole, if_pos (by omega)] at h
    cases h
  rw [numeralLiteral_eq hread] at h
  cases h
  exact .numeral n

theorem derives_of_nameLiteral {letters : List Char} {position : Nat} {e : Expr}
    (h : nameLiteral letters position = .ok e) : Derives .primary [.name letters] e := by
  unfold nameLiteral at h
  dsimp only at h
  split at h
  · next hyes =>
    cases h
    exact .yes hyes
  · split at h
    · next hno =>
      cases h
      exact .no hno
    · cases h

/-! ## Lists of arguments -/

theorem separated_singleton (ts : List Token) : separated [ts] = ts := by
  simp [separated, List.intercalate]

theorem separated_cons_cons (ts us : List Token) (rest : List (List Token)) :
    separated (ts :: us :: rest) = ts ++ .symbol .comma :: separated (us :: rest) := by
  simp [separated, List.intercalate]

theorem mem_separated {lists : List (List Token)} {tokens : List Token} (h : tokens ∈ lists)
    {t : Token} (ht : t ∈ tokens) : t ∈ separated lists := by
  induction lists with
  | nil => cases h
  | cons tokens' lists ih =>
    cases lists with
    | nil =>
      rw [separated_singleton, ← List.mem_singleton.1 h]
      exact ht
    | cons tokens'' lists =>
      rw [separated_cons_cons]
      rcases List.mem_cons.1 h with rfl | h
      · exact List.mem_append_left _ ht
      · exact List.mem_append_right _ (List.mem_cons_of_mem _ (ih h))

end Formula

end RecordCalc
