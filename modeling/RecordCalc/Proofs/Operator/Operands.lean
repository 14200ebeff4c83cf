import RecordCalc.Evaluation.Eval
import RecordCalc.Proofs.Operator.BuiltIn

/-
  Operands of arithmetic. A rule of arithmetic takes an operand as a date or as a number, so it does
  not tell apart operands that are the same date or have the same number (`rule_congr`).
-/

namespace RecordCalc

open Calendar (DateTime)

namespace Arithmetic

/-- Values that arithmetic does not tell apart: one date, or values with the same number. -/
structure SameOperand (v w : Value) : Prop where
  dateLike : dateLike? v = dateLike? w
  toNumber : v.toNumber = w.toNumber
  eq_of_date : (dateLike? v).isSome → v = w

section
variable {a a' b b' : Value}

theorem add_congr (ha : SameOperand a a') (hb : SameOperand b b') : add a b = add a' b' := by
  rw [add, add, ha.dateLike, hb.dateLike, ha.toNumber, hb.toNumber]

theorem subtract_congr (ha : SameOperand a a') (hb : SameOperand b b') :
    subtract a b = subtract a' b' := by
  have hdays (hda : (dateLike? a).isSome) (hdb : (dateLike? b).isSome) :
      daysBetween a b = daysBetween a' b' := by
    rw [ha.eq_of_date hda, hb.eq_of_date hdb]
  unfold subtract
  rw [← ha.dateLike, ← hb.dateLike, ha.toNumber, hb.toNumber]
  cases hda : dateLike? a with
  | none => rfl
  | some d =>
    cases hdb : dateLike? b with
    | none => rfl
    | some d' => simp only [hdays (by simp [hda]) (by simp [hdb])]

theorem multiply_congr (ha : SameOperand a a') (hb : SameOperand b b') :
    multiply a b = multiply a' b' := by
  rw [multiply, multiply, ha.toNumber, hb.toNumber]

theorem dividing_congr (id : String) (f : Number → Number → Except Fault Number)
    (ha : SameOperand a a') (hb : SameOperand b b') :
    dividing id f [a, b] = dividing id f [a', b'] := by
  rw [dividing, dividing, ha.toNumber, hb.toNumber]

theorem power_congr (ha : SameOperand a a') (hb : SameOperand b b') : power a b = power a' b' := by
  rw [power, power, ha.toNumber, hb.toNumber]

theorem negate_congr (ha : SameOperand a a') : negate a = negate a' := by
  rw [negate, negate, ha.toNumber]

/-- The rules whose operands the Codd regime converts do not tell operands apart that arithmetic
does not. -/
theorem rule_congr {o : Operator} (ho : o ∈ operators.take 6) (ha : SameOperand a a')
    (hb : SameOperand b b') : o.rule [a, b] = o.rule [a', b'] := by
  have hall : ∀ o ∈ operators.take 6, o.rule [a, b] = o.rule [a', b'] := by
    simp only [operators, List.take, List.forall_mem_cons, List.not_mem_nil, false_implies,
      implies_true, and_true]
    exact ⟨congrArg Rule.lift (add_congr ha hb), congrArg Rule.lift (subtract_congr ha hb),
      congrArg Rule.lift (multiply_congr ha hb), dividing_congr _ _ ha hb,
      dividing_congr _ _ ha hb, congrArg Rule.lift (power_congr ha hb)⟩
  exact hall o ho

end

end Arithmetic

namespace Registry

theorem mem_builtIn_arithmetic {now : DateTime} {o : Operator} (ho : o ∈ Arithmetic.operators) :
    o ∈ builtInOperators now := by
  simp [builtInOperators, ho]

/-- The operators whose operands the Codd regime converts. -/
theorem mem_arithmetic {now : DateTime} {o : Operator} (ho : o ∈ builtInOperators now)
    (hid : o.id ∈ arithmeticIds) : o ∈ Arithmetic.operators.take 6 := by
  exact mem_of_id_mem ho (fun p hp => mem_builtIn_arithmetic (List.mem_of_mem_take hp)) hid

/-- The operator of a sign. -/
theorem get_negate (now : DateTime) :
    ∃ o, (builtIn now).get "NEGATE" = .ok o ∧ o.rule = Rule.unary Arithmetic.negate := by
  have hmem : Arithmetic.operators[6] ∈ builtInOperators now :=
    mem_builtIn_arithmetic (List.getElem_mem _)
  have hid : Arithmetic.operators[6].id = "NEGATE" := rfl
  have hget := get_builtIn hmem
  rw [hid] at hget
  exact ⟨_, hget, rfl⟩

/-- The operator of a negation. -/
theorem get_not (now : DateTime) :
    ∃ o, (builtIn now).get "NOT" = .ok o ∧ o.rule = Rule.unary Logic.not := by
  have hmem : Logic.connectives[2] ∈ builtInOperators now := by
    simp [builtInOperators, Logic.operators]
  have hid : Logic.connectives[2].id = "NOT" := rfl
  have hget := get_builtIn hmem
  rw [hid] at hget
  exact ⟨_, hget, rfl⟩

end Registry

end RecordCalc
