import Mathlib.Data.Nat.Size
import Mathlib.Data.Rat.Floor
import RecordCalc.Proofs.Evaluation.Named

/-
  Exact arithmetic of formulas. `Expr.exactValue?` is the value of an expression over the integers,
  as long as every division comes out even, no divisor is zero and no power is negative or too
  large. Where it has a value, the expression comes to that integer in both regimes, whatever its
  size, if the evaluation descends through all its levels (`eval_exact`).
-/

namespace RecordCalc

open Calendar (DateTime)

/-! ## Arithmetic of integers -/

/-- What an operator before an integer comes to in exact arithmetic. -/
def UnaryOp.exactValue? : UnaryOp → Int → Option Int
  | negate, a => some (-a)
  | plus, a => some a
  | _, _ => none

/-- What an operator between integers comes to in exact arithmetic: none where a division leaves a
remainder, a divisor is zero, or a power is negative or too large. The remainder is what the floor
of the quotient leaves over, so it has the sign of the divisor. -/
def BinaryOp.exactValue? : BinaryOp → Int → Int → Option Int
  | add, a, b => some (a + b)
  | subtract, a, b => some (a - b)
  | multiply, a, b => some (a * b)
  | divide, a, b => if b ≠ 0 ∧ b ∣ a then some (a / b) else none
  | modulo, a, b => if b ≠ 0 then some (a - b * ⌊(a / b : ℚ)⌋) else none
  | power, a, b => if 0 ≤ b ∧ a.natAbs.size * b.toNat ≤ 65536 then some (a ^ b.toNat) else none
  | _, _, _ => none

namespace Expr

/-- The value of an expression in exact arithmetic, by the integers that its fields stand for. -/
def exactValue? (integer? : String → Option Int) : Expr → Option Int
  | literal (.number (.int n)) => some n
  | field name => integer? name
  | unary op e => do op.exactValue? (← exactValue? integer? e)
  | binary op l r => do op.exactValue? (← exactValue? integer? l) (← exactValue? integer? r)
  | literal _ | call .. | bare _ => none

mutual

/-- The number of levels of an expression. -/
def depth : Expr → Nat
  | literal _ | field _ | bare _ => 1
  | call _ args => depthOf args + 1
  | unary _ e => e.depth + 1
  | binary _ l r => max l.depth r.depth + 1

/-- The number of levels of the deepest of some expressions. -/
def depthOf : List Expr → Nat
  | [] => 0
  | e :: es => max e.depth (depthOf es)

end

end Expr

/-- The integer that a formula sees in a field of a record, none for any other value. -/
def Record.integer? (r : Record) (name : String) : Option Int :=
  match (r.get name).resolveCell with
  | .ok (.number (.int n)) => some n
  | _ => none

theorem Record.resolveCell_of_integer? {r : Record} {name : String} {n : Int}
    (h : r.integer? name = some n) : (r.get name).resolveCell = .ok (.int n) := by
  unfold Record.integer? at h
  split at h
  next m hm =>
    cases h
    exact hm
  · cases h

/-! ## The rules on integers -/

namespace Number

theorem bitLength_eq_size (n : Nat) : bitLength n = n.size := by
  unfold bitLength
  split
  next h =>
    rw [h, Nat.size_zero]
  next h =>
    apply le_antisymm
    · have hlow : 2 ^ n.log2 ≤ n := Nat.log2_self_le h
      exact Nat.lt_size.2 hlow
    · exact Nat.size_le.2 Nat.lt_log2_self

theorem fdiv_eq_floor_of_nonneg (a : Int) {b : Int} (hb : 0 ≤ b) :
    Int.fdiv a b = ⌊(a / b : ℚ)⌋ := by
  obtain ⟨d, rfl⟩ := Int.eq_ofNat_of_zero_le hb
  rw [Int.fdiv_eq_ediv_of_nonneg a hb]
  exact (Rat.floor_intCast_div_natCast a d).symm

/-- The division toward the floor, for divisors of both signs. -/
theorem fdiv_eq_floor (a b : Int) : Int.fdiv a b = ⌊(a / b : ℚ)⌋ := by
  rcases le_total 0 b with hb | hb
  · exact fdiv_eq_floor_of_nonneg a hb
  · have hswapped := fdiv_eq_floor_of_nonneg (-a) (neg_nonneg.2 hb)
    simpa using hswapped

/-- The remainder of the division toward the floor. -/
theorem fmod_eq_sub_floor (a b : Int) : Int.fmod a b = a - b * ⌊(a / b : ℚ)⌋ := by
  rw [Int.fmod_def, fdiv_eq_floor]

end Number

namespace Arithmetic

variable {a b n : Int}

theorem divide_of_dvd (hb : b ≠ 0) (hdvd : b ∣ a) :
    dividing "DIVIDE" Number.div [.int a, .int b] = .ok (.int (a / b)) := by
  have hzero : Number.isZero (.int b) = false := by simpa [Number.isZero] using hb
  have hmod : Int.fmod a b = 0 := Int.fmod_eq_zero_of_dvd hdvd
  have hdiv : Number.div (.int a) (.int b) = .ok (.int (Int.fdiv a b)) := by
    rw [Number.div, if_pos hmod]
  show (if Number.isZero (.int b) then _
    else Rule.lift (.number <$> Number.div (.int a) (.int b))) = _
  rw [hzero, if_neg Bool.false_ne_true, hdiv, Int.fdiv_eq_ediv_of_dvd hdvd]
  rfl

theorem modulo_of_ne_zero (hb : b ≠ 0) :
    dividing "MODULO" Number.mod [.int a, .int b] = .ok (.int (a - b * ⌊(a / b : ℚ)⌋)) := by
  have hzero : Number.isZero (.int b) = false := by simpa [Number.isZero] using hb
  show (if Number.isZero (.int b) then _
    else Rule.lift (.number <$> Number.mod (.int a) (.int b))) = _
  rw [hzero, if_neg Bool.false_ne_true, ← Number.fmod_eq_sub_floor]
  rfl

theorem power_of_le (hb : 0 ≤ b) (hsize : a.natAbs.size * b.toNat ≤ 65536) :
    power (.int a) (.int b) = .ok (.int (a ^ b.toNat)) := by
  have hlimit : Number.powerBitLimit = 65536 := rfl
  have hexact : (decide (0 ≤ b) &&
      decide (Number.bitLength a.natAbs * b.toNat ≤ Number.powerBitLimit)) = true := by
    rw [Number.bitLength_eq_size, hlimit]
    simpa [hb] using hsize
  show Except.ok (Value.ofNumber? (Number.power (.int a) (.int b))) = _
  rw [Number.power]
  simp only [hexact, if_true]
  rfl

/-- On two integers the rule of an operator is exact. -/
theorem exists_exact {op : BinaryOp} (h : op.exactValue? a b = some n) :
    ∃ o ∈ operators, op.operatorId? = some o.id ∧ o.id ∈ arithmeticIds ∧
      o.rule [.int a, .int b] = .ok (.int n) := by
  cases op with
  | add =>
    cases h
    exact ⟨operators[0], List.getElem_mem _, rfl, by decide, rfl⟩
  | subtract =>
    cases h
    exact ⟨operators[1], List.getElem_mem _, rfl, by decide, rfl⟩
  | multiply =>
    cases h
    exact ⟨operators[2], List.getElem_mem _, rfl, by decide, rfl⟩
  | divide =>
    obtain ⟨⟨hb, hdvd⟩, hn⟩ := Option.ite_none_right_eq_some.1 h
    cases hn
    exact ⟨operators[3], List.getElem_mem _, rfl, by decide, divide_of_dvd hb hdvd⟩
  | modulo =>
    obtain ⟨hb, hn⟩ := Option.ite_none_right_eq_some.1 h
    cases hn
    exact ⟨operators[4], List.getElem_mem _, rfl, by decide, modulo_of_ne_zero hb⟩
  | power =>
    obtain ⟨⟨hb, hsize⟩, hn⟩ := Option.ite_none_right_eq_some.1 h
    cases hn
    exact ⟨operators[5], List.getElem_mem _, rfl, by decide,
      congrArg Rule.lift (power_of_le hb hsize)⟩
  | _ => cases h

end Arithmetic

namespace Evaluator

section
variable {now : DateTime} {ev : Evaluator} {r : Record} {a b n : Int}

theorem strictOperand_int (ev : Evaluator) (n : Int) : ev.strictOperand (.int n) = .int n := rfl

theorem arithmetic_int (o : Operator) (a b : Int) :
    ev.arithmetic o (.int a) (.int b) = ev.apply o [.int a, .int b] := by
  unfold arithmetic
  split <;> rfl

theorem applyBinary_exact (hreg : ev.registry = .builtIn now) {op : BinaryOp}
    (h : op.exactValue? a b = some n) :
    (ev.applyBinary op (.int a) (.int b)).outcome = .ok (.int n) := by
  obtain ⟨o, ho, hid, harith, hrule⟩ := Arithmetic.exists_exact h
  have hget : ev.registry.get o.id = .ok o := by
    rw [hreg, Registry.get_builtIn (Registry.mem_builtIn_arithmetic ho)]
  rw [applyBinary_arithmetic hid harith, hget, Run.ofExcept_ok_bind, arithmetic_int]
  exact apply_outcome_ok hrule

theorem applyUnary_exact (hreg : ev.registry = .builtIn now) {op : UnaryOp}
    (h : op.exactValue? a = some n) : (ev.applyUnary op (.int a)).outcome = .ok (.int n) := by
  cases op with
  | negate =>
    cases h
    obtain ⟨o, hget, hrule⟩ := Registry.get_negate now
    rw [← hreg] at hget
    simp only [applyUnary, hget, Run.ofExcept_ok_bind, strictOperand_int]
    split
    · exact apply_negate hrule _
    · exact apply_negate hrule _
  | plus =>
    cases h
    show Except.ok (if ev.isCodd then ev.strictOperand (.int a) else _) = _
    split <;> rfl
  | _ => cases h

/-- The run comes to a value if enough levels are left for some depth, and else fails for its
nesting. -/
def Reaches (levels depth : Nat) (run : Run Value) (v : Value) : Prop :=
  run.outcome = if depth ≤ levels then .ok v else .error .nestingTooDeep

section
variable {levels depth depth' : Nat} {run : Run Value} {f : Value → Run Value} {v w : Value}

theorem Reaches.of_ok (h : run.outcome = .ok v) : Reaches levels 0 run v := by
  rw [Reaches, if_pos (Nat.zero_le levels), h]

/-- What goes on with a value needs the levels of both. -/
theorem Reaches.bind (h : Reaches levels depth run v) (hf : Reaches levels depth' (f v) w) :
    Reaches levels (max depth depth') (run >>= f) w := by
  unfold Reaches at h hf ⊢
  by_cases hdepth : depth ≤ levels
  · rw [if_pos hdepth] at h
    rw [Run.bind_outcome_of_ok h, hf]
    simp only [Nat.max_le, hdepth, true_and]
  · rw [if_neg hdepth] at h
    rw [Run.bind_outcome_of_error h, if_neg fun hmax => hdepth (Nat.max_le.1 hmax).1]

theorem Reaches.bind_ok (h : Reaches levels depth run v) (hf : (f v).outcome = .ok w) :
    Reaches levels depth (run >>= f) w := by
  have hbind := h.bind (.of_ok hf)
  rwa [Nat.max_zero] at hbind

/-- The last level of an expression goes to its operator, the others to its operands. -/
theorem Reaches.of_step {e : Expr} {d : Nat} (hdepth : e.depth = d + 1)
    (h : ∀ levels, Reaches levels d (ev.evalStep r (ev.evalWithin r levels) e) v) :
    Reaches levels e.depth (ev.evalWithin r levels e) v := by
  rw [hdepth]
  cases levels with
  | zero =>
    rw [Reaches, if_neg (Nat.not_succ_le_zero d)]
    rfl
  | succ levels =>
    have hstep := h levels
    simp only [Reaches, Nat.add_le_add_iff_right] at hstep ⊢
    exact hstep

end

/-- An expression with a value in exact arithmetic comes to it when the evaluation descends through
all its levels, and fails for its nesting when it does not. -/
theorem reaches_exact (hreg : ev.registry = .builtIn now) {e : Expr}
    (h : e.exactValue? r.integer? = some n) (levels : Nat) :
    Reaches levels e.depth (ev.evalWithin r levels e) (.int n) := by
  fun_induction Expr.exactValue? r.integer? e generalizing n levels with
  | case1 m =>
    cases h
    exact .of_step (by rw [Expr.depth]) fun _ => .of_ok rfl
  | case2 name =>
    refine .of_step (by rw [Expr.depth]) fun _ => .of_ok ?_
    rw [evalStep, Record.resolveCell_of_integer? h]
    rfl
  | case3 op e ih =>
    obtain ⟨a, ha, hop⟩ := Option.bind_eq_some_iff.1 h
    refine .of_step (by rw [Expr.depth]) fun levels => ?_
    have hoperand := ih ha levels
    exact hoperand.bind_ok (applyUnary_exact hreg hop)
  | case4 op left right ihl ihr =>
    obtain ⟨a, ha, h⟩ := Option.bind_eq_some_iff.1 h
    obtain ⟨b, hb, hop⟩ := Option.bind_eq_some_iff.1 h
    refine .of_step (by rw [Expr.depth]) fun levels => ?_
    have hleft := ihl ha levels
    have hright := ihr hb levels
    exact hleft.bind (hright.bind_ok (applyBinary_exact hreg hop))
  | case5 => cases h
  | case6 => cases h
  | case7 => cases h

end

/-- Formulas over integers are exact, whatever the size of the integers: with literals and fields
that are integers, an expression of the six operators of arithmetic and of signs comes to its value
in exact arithmetic, in both regimes, unless it is nested beyond the levels that are evaluated,
however many these are. -/
theorem eval_exact (now : DateTime) (mode : NullMode) (emptyText : Bool) (r : Record) {e : Expr}
    {n : Int} (h : e.exactValue? r.integer? = some n) :
    let ev : Evaluator := ⟨.builtIn now, mode, emptyText⟩
    (ev.eval r e).outcome =
        (if e.depth ≤ levelLimit then .ok (.int n) else .error .nestingTooDeep) ∧
      ∀ levels, (ev.evalWithin r levels e).outcome =
        if e.depth ≤ levels then .ok (.int n) else .error .nestingTooDeep := by
  intro ev
  have hreach : ∀ levels, Reaches levels e.depth (ev.evalWithin r levels e) (.int n) :=
    reaches_exact (rfl : ev.registry = .builtIn now) h
  exact ⟨hreach levelLimit, hreach⟩

/-- A remainder below a negative divisor has its sign, and a hundredth power of it is exact. -/
theorem eval_exact_remainder :
    let e : Expr := .binary .power (.binary .modulo (.field "a") (.literal (.int (-3))))
      (.literal (.int 100))
    ((codd Registry.epoch true).eval [("a", .int 7)] e).outcome = .ok (.int (2 ^ 100)) := by
  intro e
  have hexact : e.exactValue? (Record.integer? [("a", .int 7)]) = some (2 ^ 100) := by
    decide +kernel
  exact (eval_exact Registry.epoch .codd true _ hexact).1

/-! ## Signs beyond the levels -/

theorem exactValue?_iterate_negate_of {integer? : String → Option Int} {e : Expr} {n : Int}
    (h : e.exactValue? integer? = some n) (k : Nat) :
    ((Expr.unary .negate)^[k] e).exactValue? integer? = some (Neg.neg^[k] n) := by
  induction k with
  | zero => exact h
  | succ k ih =>
    rw [Function.iterate_succ_apply', Function.iterate_succ_apply', Expr.exactValue?, ih]
    rfl

theorem exactValue?_iterate_negate (integer? : String → Option Int) (k : Nat) (n : Int) :
    ((Expr.unary .negate)^[k] (.literal (.int n))).exactValue? integer? = some (Neg.neg^[k] n) :=
  exactValue?_iterate_negate_of rfl k

theorem depth_iterate_unary (op : UnaryOp) (k : Nat) (e : Expr) :
    ((Expr.unary op)^[k] e).depth = e.depth + k := by
  induction k with
  | zero => rfl
  | succ k ih => rw [Function.iterate_succ_apply', Expr.depth, ih, Nat.add_assoc]

/-- One under two thousand minus signs is one in exact arithmetic, but is nested too deeply. -/
theorem eval_ne_exact_signs :
    let e : Expr := (Expr.unary .negate)^[2000] (.literal (.int 1))
    e.exactValue? (Record.integer? []) = some 1 ∧
      ((codd Registry.epoch true).eval [] e).outcome ≠ .ok (.int 1) := by
  intro e
  have hexact : e.exactValue? (Record.integer? []) = some 1 := by
    have heven : Even 2000 := by decide
    rw [exactValue?_iterate_negate, neg_involutive.iterate_even heven]
    rfl
  have hdepth : ¬ e.depth ≤ levelLimit := by
    rw [depth_iterate_unary, Expr.depth, levelLimit]
    omega
  have hreach := reaches_exact (registry_codd Registry.epoch true) hexact levelLimit
  rw [Reaches, if_neg hdepth] at hreach
  refine ⟨hexact, fun hone => ?_⟩
  rw [eval, hreach] at hone
  cases hone

end Evaluator

end RecordCalc
