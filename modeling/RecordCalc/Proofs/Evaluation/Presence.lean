import RecordCalc.Proofs.Evaluation.Dispatch
import RecordCalc.Proofs.Evaluation.Visits

/-
  What a value of arithmetic tells of its operands. In the Codd regime a missing operand, one that
  is no number and no date, and a divisor of zero leave arithmetic without a value, through every
  operator above them. So an expression of arithmetic with a value has all its literals and fields
  there, and no divisor in it is zero (`present_of_operation`).
-/

namespace RecordCalc

open Calendar (DateTime)

/-! ## Expressions of arithmetic -/

/-- The operators of arithmetic between operands. -/
def BinaryOp.arithmetic : List BinaryOp := [add, subtract, multiply, divide, modulo, power]

/-- The operators of arithmetic before an operand. -/
def UnaryOp.arithmetic : List UnaryOp := [negate, plus]

/-- The operators between operands that divide by the second. -/
def BinaryOp.dividing : List BinaryOp := [divide, modulo]

namespace Expr

/-- Whether the expression is a literal or a field. -/
def isLeaf : Expr → Bool
  | literal _ | field _ => true
  | _ => false

/-- Whether literals and fields are joined by operators of arithmetic alone. -/
def isArithmetic : Expr → Bool
  | literal _ | field _ => true
  | unary op e => UnaryOp.arithmetic.contains op && e.isArithmetic
  | binary op l r => BinaryOp.arithmetic.contains op && l.isArithmetic && r.isArithmetic
  | call .. | bare _ => false

/-- The literals and fields that operators join. -/
def leaves : Expr → List Expr
  | literal v => [literal v]
  | field name => [field name]
  | unary _ e => e.leaves
  | binary _ l r => l.leaves ++ r.leaves
  | call .. | bare _ => []

/-- The operands that are divided by, also for a remainder. -/
def divisors : Expr → List Expr
  | unary _ e => e.divisors
  | binary op l r =>
    l.divisors ++ r.divisors ++ if BinaryOp.dividing.contains op then [r] else []
  | _ => []

end Expr

theorem BinaryOp.operatorId?_arithmetic {op : BinaryOp} (h : op ∈ arithmetic) :
    ∃ id ∈ arithmeticIds, op.operatorId? = some id := by
  have hall : ∀ op ∈ arithmetic, ∃ id ∈ arithmeticIds, op.operatorId? = some id := by
    simp [arithmetic, arithmeticIds, operatorId?]
  exact hall op h

namespace Evaluator

section
variable {now : DateTime} {ev : Evaluator} {o : Operator} {r : Record} {a b v : Value}

/-! ## Operands -/

/-- An operand that arithmetic takes is there, and is a date or has a number. -/
theorem present_of_strictOperand (h : ev.strictOperand v ≠ .null) :
    ev.isMissing v = false ∧ (v.isDate = true ∨ v.toNumber?.isSome = true) := by
  rw [Ne, strictOperand_eq_null_iff, not_or, not_and] at h
  obtain ⟨hmissing, hnumber⟩ := h
  refine ⟨by simpa using hmissing, ?_⟩
  cases hdate : v.isDate with
  | true => exact .inl rfl
  | false => exact .inr (Option.isSome_iff_ne_none.2 (hnumber hdate))

theorem ne_null_of_strictOperand (h : ev.strictOperand v ≠ .null) : v ≠ .null := by
  rintro rfl
  exact h rfl

/-- An operand that arithmetic takes has a number, a date that of its time. -/
theorem exists_toNumber?_of_strictOperand (h : ev.strictOperand v ≠ .null) :
    ∃ n, v.toNumber? = some n := by
  obtain ⟨-, hdate | hnumber⟩ := present_of_strictOperand h
  · cases v with
    | date d => exact ⟨_, by rw [Value.toNumber?]⟩
    | datetime t => exact ⟨_, by rw [Value.toNumber?]⟩
    | _ => cases hdate
  · exact Option.isSome_iff_exists.1 hnumber

/-- Arithmetic with a value has taken both operands. -/
theorem operands_of_arithmetic (hcodd : ev.mode = .codd)
    (h : (ev.arithmetic o a b).outcome = .ok v) (hv : v ≠ .null) :
    ev.strictOperand a ≠ .null ∧ ev.strictOperand b ≠ .null ∧
      (ev.apply o [ev.strictOperand a, ev.strictOperand b]).outcome = .ok v := by
  by_cases hnull : ev.strictOperand a = .null ∨ ev.strictOperand b = .null
  · rw [arithmetic_of_null hcodd hnull] at h
    cases h
    exact absurd rfl hv
  · rw [arithmetic_of_ne_null hcodd hnull, ← apply_eq_onceOn] at h
    obtain ⟨ha, hb⟩ := not_or.1 hnull
    exact ⟨ha, hb, h⟩

/-- A rule that divides has no value for a divisor of zero. -/
theorem isZero_of_dividing (hcodd : ev.mode = .codd) {id : String}
    {f : Number → Number → Except Fault Number} (hrule : o.rule = Arithmetic.dividing id f)
    (h : (ev.apply o [a, b]).outcome = .ok v) (hv : v ≠ .null) : b.toNumber.isZero = false := by
  by_contra hzero
  have hzero : b.toNumber.isZero = true := by simpa using hzero
  have hfails : o.rule [a, b] = .error (.divisionByZero id) := by
    rw [hrule]
    exact if_pos hzero
  have hnull : (ev.apply o [a, b]).outcome = .ok .null := by
    rw [apply_eq_onceOn, onceOn, hfails]
    simp only [Run.guarded, settled, isCodd_iff.2 hcodd]
    rfl
  rw [hnull] at h
  cases h
  exact hv rfl

/-- The rules of the operators that divide. -/
theorem rule_dividing (hreg : ev.registry = .builtIn now) {op : BinaryOp}
    (hop : op ∈ BinaryOp.dividing) {id : String} (hid : op.operatorId? = some id)
    (hget : ev.registry.get id = .ok o) : ∃ f, o.rule = Arithmetic.dividing id f := by
  rw [hreg] at hget
  rcases List.mem_pair.1 hop with rfl | rfl
  · cases hid
    have hmem : Arithmetic.operators[3] ∈ builtInOperators now :=
      Registry.mem_builtIn_arithmetic (List.getElem_mem _)
    have hbuiltIn := Registry.get_builtIn hmem
    cases hget.symm.trans hbuiltIn
    exact ⟨_, rfl⟩
  · cases hid
    have hmem : Arithmetic.operators[4] ∈ builtInOperators now :=
      Registry.mem_builtIn_arithmetic (List.getElem_mem _)
    have hbuiltIn := Registry.get_builtIn hmem
    cases hget.symm.trans hbuiltIn
    exact ⟨_, rfl⟩

/-! ## Operators -/

/-- An operator of arithmetic with a value has taken both operands, and divides by no zero. -/
theorem operands_of_applyBinary (hreg : ev.registry = .builtIn now) (hcodd : ev.mode = .codd)
    {op : BinaryOp} (hop : op ∈ BinaryOp.arithmetic) (h : (ev.applyBinary op a b).outcome = .ok v)
    (hv : v ≠ .null) :
    ev.strictOperand a ≠ .null ∧ ev.strictOperand b ≠ .null ∧
      (op ∈ BinaryOp.dividing → b.toNumber.isZero = false) := by
  obtain ⟨id, harith, hid⟩ := BinaryOp.operatorId?_arithmetic hop
  rw [applyBinary_arithmetic hid harith] at h
  obtain ⟨o, hget, h⟩ := Run.bind_outcome_ok h
  obtain ⟨ha, hb, h⟩ := operands_of_arithmetic hcodd h hv
  refine ⟨ha, hb, fun hdividing => ?_⟩
  obtain ⟨f, hrule⟩ := rule_dividing hreg hdividing hid hget
  rw [← (sameOperand_strictOperand hb).toNumber]
  exact isZero_of_dividing hcodd hrule h hv

/-- A sign with a value has taken its operand. -/
theorem operand_of_applyUnary (hcodd : ev.mode = .codd) {op : UnaryOp}
    (hop : op ∈ UnaryOp.arithmetic) (h : (ev.applyUnary op a).outcome = .ok v) (hv : v ≠ .null) :
    ev.strictOperand a ≠ .null := by
  intro hnull
  have hnone : (ev.applyUnary op a).outcome = .ok .null := by
    rcases List.mem_pair.1 hop with rfl | rfl
    · simp only [applyUnary, isCodd_iff.2 hcodd, if_true, hnull]
      rfl
    · simp only [applyUnary, isCodd_iff.2 hcodd, if_true, hnull]
      rfl
  rw [hnone] at h
  cases h
  exact hv rfl

end

/-! ## Expressions -/

/-- All that an expression of arithmetic is made of is there: its literals and fields have values
that are not missing and are dates or have a number, and what it divides by has a number other than
zero. -/
structure Present (ev : Evaluator) (r : Record) (e : Expr) : Prop where
  leaves : ∀ leaf ∈ e.leaves, ∃ v, (ev.eval r leaf).outcome = .ok v ∧ ev.isMissing v = false ∧
    (v.isDate = true ∨ v.toNumber?.isSome = true)
  divisors : ∀ divisor ∈ e.divisors, ∃ v n, (ev.eval r divisor).outcome = .ok v ∧
    v.toNumber? = some n ∧ n.isZero = false

section
variable {now : DateTime} {ev : Evaluator} {r : Record} {e left right : Expr} {op : BinaryOp}

theorem present_binary (hl : ev.Present r left) (hr : ev.Present r right)
    (hdivisor : op ∈ BinaryOp.dividing → ∃ v n, (ev.eval r right).outcome = .ok v ∧
      v.toNumber? = some n ∧ n.isZero = false) : ev.Present r (.binary op left right) where
  leaves leaf hleaf := by
    rcases List.mem_append.1 hleaf with hleaf | hleaf
    · exact hl.leaves leaf hleaf
    · exact hr.leaves leaf hleaf
  divisors divisor hmem := by
    rw [Expr.divisors, List.mem_append, List.mem_append] at hmem
    rcases hmem with (hmem | hmem) | hmem
    · exact hl.divisors divisor hmem
    · exact hr.divisors divisor hmem
    · split at hmem
      next hdividing =>
        obtain rfl := List.mem_singleton.1 hmem
        exact hdivisor (List.contains_iff_mem.1 hdividing)
      · cases hmem

theorem present_leaf (hleaf : e.isLeaf = true) {v : Value} (h : (ev.eval r e).outcome = .ok v)
    (hv : ev.strictOperand v ≠ .null) : ev.Present r e := by
  have hparts : e.leaves = [e] ∧ e.divisors = [] := by
    cases e <;> first | exact ⟨rfl, rfl⟩ | cases hleaf
  refine ⟨fun leaf hmem => ?_, fun divisor hmem => ?_⟩
  · rw [hparts.1] at hmem
    obtain rfl := List.mem_singleton.1 hmem
    exact ⟨v, h, present_of_strictOperand hv⟩
  · rw [hparts.2] at hmem
    cases hmem

/-- An expression of arithmetic is made of what is there, if it has a value that arithmetic would
take as an operand, or if it has a value and is more than a leaf. -/
theorem present_of_value (hreg : ev.registry = .builtIn now) (hcodd : ev.mode = .codd)
    (harith : e.isArithmetic = true) {n : Nat} (hn : n ≤ levelLimit) {v : Value}
    (h : (ev.evalWithin r n e).outcome = .ok v) (hv : v ≠ .null)
    (hleaf : e.isLeaf = true → ev.strictOperand v ≠ .null) : ev.Present r e := by
  -- the operands of an operator with a value have values that arithmetic takes
  fun_induction Expr.isArithmetic e generalizing n v with
  | case1 w => exact present_leaf rfl (evalWithin_mono hn h) (hleaf rfl)
  | case2 name => exact present_leaf rfl (evalWithin_mono hn h) (hleaf rfl)
  | case3 op e ih =>
    obtain ⟨hop, harith⟩ := Bool.and_eq_true_iff.1 harith
    cases n with
    | zero => cases h
    | succ n =>
      obtain ⟨a, ha, h⟩ := Run.bind_outcome_ok h
      have htaken := operand_of_applyUnary hcodd (List.contains_iff_mem.1 hop) h hv
      have hpart := ih harith (Nat.le_of_succ_le hn) ha (ne_null_of_strictOperand htaken)
        fun _ => htaken
      exact ⟨hpart.leaves, hpart.divisors⟩
  | case4 op left right ihl ihr =>
    obtain ⟨harith, hright⟩ := Bool.and_eq_true_iff.1 harith
    obtain ⟨hop, hleft⟩ := Bool.and_eq_true_iff.1 harith
    cases n with
    | zero => cases h
    | succ n =>
      have hn := Nat.le_of_succ_le hn
      obtain ⟨a, ha, h⟩ := Run.bind_outcome_ok h
      obtain ⟨b, hb, h⟩ := Run.bind_outcome_ok h
      obtain ⟨htaken, htaken', hzero⟩ :=
        operands_of_applyBinary hreg hcodd (List.contains_iff_mem.1 hop) h hv
      refine present_binary
        (ihl hleft hn ha (ne_null_of_strictOperand htaken) fun _ => htaken)
        (ihr hright hn hb (ne_null_of_strictOperand htaken') fun _ => htaken')
        fun hdividing => ?_
      obtain ⟨m, hm⟩ := exists_toNumber?_of_strictOperand htaken'
      have hzero := hzero hdividing
      rw [Value.toNumber, hm] at hzero
      exact ⟨b, m, evalWithin_mono hn hb, hm, hzero⟩
  | case5 => cases harith
  | case6 => cases harith

/-- An expression of arithmetic that is more than a leaf and has a value other than nothing is made
of what is there. -/
theorem present_of_operation (hreg : ev.registry = .builtIn now) (hcodd : ev.mode = .codd)
    (harith : e.isArithmetic = true) (hleaf : e.isLeaf = false) {v : Value}
    (h : (ev.eval r e).outcome = .ok v) (hv : v ≠ .null) : ev.Present r e :=
  present_of_value hreg hcodd harith (Nat.le_refl levelLimit) h hv fun htrue => by
    rw [hleaf] at htrue
    cases htrue

end

end Evaluator

end RecordCalc
