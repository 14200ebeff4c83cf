import RecordCalc.Proofs.Evaluation.Calls
import RecordCalc.Proofs.Evaluation.Run

/-
  Answers of the Codd regime are certain. A value is refined by another when it is missing or the
  same. The operations of arithmetic, comparison and three-valued logic respect refinement, so
  filling in missing data of a record never changes an answer that is there
  (`eval_certain`).
-/

namespace RecordCalc

open Calendar (DateTime)

/-- Expressions of literals, fields, signs, infix operators other than the joining of texts, and
the connectives. -/
inductive Expr.IsKleene : Expr → Prop
  | literal (v : Value) : IsKleene (.literal v)
  | field (name : String) : IsKleene (.field name)
  | unary (op : UnaryOp) {e : Expr} : IsKleene e → IsKleene (.unary op e)
  | binary {op : BinaryOp} {l r : Expr} :
      op ≠ .concat → IsKleene l → IsKleene r → IsKleene (.binary op l r)
  | call {name : String} {args : List Expr} :
      Text.upper name ∈ ["AND", "OR", "NOT"] → (∀ e ∈ args, IsKleene e) →
      IsKleene (.call name args)

namespace Evaluator

/-- The second value is the first, unless the first is missing. -/
def Refined (ev : Evaluator) (v v' : Value) : Prop := ev.isMissing v = false → v' = v

/-- The second run ends in a value that refines that of the first, if both end in values. -/
abbrev RunRefined (ev : Evaluator) : Run Value → Run Value → Prop := Run.Related ev.Refined

/-- Every field that is there in the first record is the same in the second. -/
def RecordRefined (ev : Evaluator) (r r' : Record) : Prop :=
  ∀ name v, (r.get name).resolveCell = .ok v → ev.isMissing v = false →
    (r'.get name).resolveCell = .ok v

section
variable {ev : Evaluator} {v v' a a' b b' : Value}

theorem refined_missing (h : ev.isMissing v = true) (v' : Value) : ev.Refined v v' := by
  intro hm
  rw [h] at hm
  cases hm

theorem Refined.refl (ev : Evaluator) (v : Value) : ev.Refined v v := fun _ => rfl

theorem RunRefined.refl (ev : Evaluator) (run : Run Value) : ev.RunRefined run run :=
  Run.Related.same fun v _ => Refined.refl ev v

/-- A run that ends in missing data at once is refined by every run. -/
theorem runRefined_missing (h : ev.isMissing v = true) (run : Run Value) :
    ev.RunRefined (.done v) run := by
  intro x y hx _
  cases hx
  exact refined_missing h y

/-! ## Values -/

theorem truth_eq_unknown_iff : ev.truth v = .unknown ↔ ev.isMissing v = true := by
  unfold truth Value.truth isMissing
  cases hm : v.isUnknown || v.isAbsent ev.emptyTextIsAbsent with
  | true => simp
  | false => cases v.toBoolean <;> simp [Truth.ofBool]

theorem Refined.truth (h : ev.Refined v v') (ht : ev.truth v ≠ .unknown) :
    ev.truth v' = ev.truth v := by
  have hm : ev.isMissing v = false := Bool.eq_false_iff.2 fun hm => ht (truth_eq_unknown_iff.2 hm)
  rw [h hm]

theorem refined_toValue {t t' : Truth} (h : t ≠ .unknown → t' = t) :
    ev.Refined t.toValue t'.toValue := by
  cases t with
  | unknown => exact refined_missing rfl _
  | no | yes =>
    rw [h (by simp)]
    exact Refined.refl ev _

theorem Refined.not (h : ev.Refined v v') :
    ev.Refined (ev.truth v).not.toValue (ev.truth v').not.toValue := by
  refine refined_toValue fun ht => ?_
  rw [h.truth]
  intro hu
  rw [hu] at ht
  exact ht rfl

/-- An operation that is missing for a missing operand respects refinement. -/
theorem Refined.runRefined (h : ev.Refined v v') {f : Value → Run Value}
    (hf : ev.isMissing v = true → ∀ run, ev.RunRefined (f v) run) :
    ev.RunRefined (f v) (f v') := by
  cases hm : ev.isMissing v with
  | true => exact hf hm _
  | false =>
    rw [h hm]
    exact RunRefined.refl ev _

end

/-! ## Operators -/

section
variable {ev : Evaluator} {a a' b b' v v' : Value}

theorem strictOperand_missing (h : ev.isMissing v = true) : ev.strictOperand v = .null := by
  rw [strictOperand, if_pos h]

theorem arithmetic_missing (hc : ev.isCodd = true) (o : Operator)
    (h : ev.isMissing a = true ∨ ev.isMissing b = true) : ev.arithmetic o a b = .done .null := by
  unfold arithmetic
  rw [if_pos hc]
  rcases h with h | h
  · rw [strictOperand_missing h]
  · rw [strictOperand_missing h]
    cases ev.strictOperand a <;> rfl

theorem runRefined_arithmetic (hc : ev.isCodd = true) (o : Operator) (ha : ev.Refined a a')
    (hb : ev.Refined b b') : ev.RunRefined (ev.arithmetic o a b) (ev.arithmetic o a' b') := by
  by_cases hm : ev.isMissing a = true ∨ ev.isMissing b = true
  · rw [arithmetic_missing hc o hm]
    exact runRefined_missing rfl _
  · obtain ⟨hma, hmb⟩ := not_or.1 hm
    rw [ha (Bool.eq_false_iff.2 hma), hb (Bool.eq_false_iff.2 hmb)]
    exact RunRefined.refl ev _

theorem runRefined_comparison (hc : ev.isCodd = true) (o : Operator) (ha : ev.Refined a a')
    (hb : ev.Refined b b') : ev.RunRefined (ev.comparison o a b) (ev.comparison o a' b') := by
  by_cases hm : ev.isMissing a = true ∨ ev.isMissing b = true
  · have hunknown : ev.comparison o a b = .done .unknown := by
      rw [comparison, if_pos (by simpa [hc] using hm)]
    rw [hunknown]
    exact runRefined_missing rfl _
  · obtain ⟨hma, hmb⟩ := not_or.1 hm
    rw [ha (Bool.eq_false_iff.2 hma), hb (Bool.eq_false_iff.2 hmb)]
    exact RunRefined.refl ev _

theorem runRefined_applyUnary (hc : ev.isCodd = true) (op : UnaryOp) (h : ev.Refined v v') :
    ev.RunRefined (ev.applyUnary op v) (ev.applyUnary op v') := by
  cases op with
  | not =>
    simp only [applyUnary, hc, if_true]
    exact Run.Related.done h.not
  | other symbol => exact Run.Related.fail_left _ _
  | plus | negate =>
    refine h.runRefined fun hm run => ?_
    simp only [applyUnary, hc, if_true, strictOperand_missing hm]
    exact runRefined_missing rfl run

end

/-- An infix operator of the built-in registry that is neither arithmetic nor the joining of texts
is a comparison. -/
theorem get_infix (now : DateTime) {op : BinaryOp} {id : String} (hop : op ≠ .concat)
    (hid : op.operatorId? = some id) (harith : arithmeticIds.contains id = false) :
    ∃ o, (Registry.builtIn now).get id = .ok o ∧ o.category = .comparison := by
  have hmem : id ∈ Logic.comparisons.map (·.id) := by
    cases op <;> simp only [BinaryOp.operatorId?, Option.some.injEq, reduceCtorEq] at hid <;>
      subst hid <;> first | decide | (exfalso; revert harith; decide) | exact absurd rfl hop
  obtain ⟨o, ho, rfl⟩ := List.mem_map.1 hmem
  exact ⟨o, Registry.get_builtIn (Registry.mem_builtIn_comparison ho),
    Registry.category_comparison ho⟩

section
variable {now : DateTime} {emptyText : Bool} {a a' b b' : Value} {eval eval' : Expr → Run Value}

theorem runRefined_applyBinary {op : BinaryOp} (hop : op ≠ .concat)
    (ha : (codd now emptyText).Refined a a') (hb : (codd now emptyText).Refined b b') :
    (codd now emptyText).RunRefined ((codd now emptyText).applyBinary op a b)
      ((codd now emptyText).applyBinary op a' b') := by
  unfold applyBinary
  cases hid : op.operatorId? with
  | none => exact Run.Related.fail_left _ _
  | some id =>
    dsimp only
    cases harith : arithmeticIds.contains id with
    | true =>
      refine (Run.Related.same (R := Eq) fun _ _ => rfl).bind ?_
      rintro o _ rfl
      exact runRefined_arithmetic rfl o ha hb
    | false =>
      obtain ⟨o, hget, hcategory⟩ := get_infix now hop hid harith
      rw [show (codd now emptyText).registry.get id = .ok o from hget]
      simp only [Run.ofExcept_ok_bind, Bool.false_eq_true, if_false, if_pos hcategory]
      exact runRefined_comparison rfl o ha hb

/-! ## Connectives -/

variable {ev : Evaluator}

/-- Once an argument was unknown, the result is the deciding value or unknown. -/
theorem upTo_unknown {stop : Truth} {es : List Expr} {v : Value}
    (h : (ev.upTo eval stop .unknown es).outcome = .ok v) : v = stop.toValue ∨ v = .unknown := by
  induction es with
  | nil =>
    cases h
    exact Or.inr rfl
  | cons e es ih =>
    rw [upTo] at h
    obtain ⟨x, -, hx⟩ := Run.bind_outcome_ok h
    dsimp only at hx
    split at hx
    · cases hx
      exact Or.inl rfl
    · rw [ite_self] at hx
      exact ih hx

theorem runRefined_upTo {stop : Truth} (hstop : stop ≠ .unknown) {es : List Expr}
    (hes : ∀ e ∈ es, ev.RunRefined (eval e) (eval' e)) {sofar sofar' : Truth}
    (hsofar : sofar ≠ .unknown → sofar' = sofar) :
    ev.RunRefined (ev.upTo eval stop sofar es) (ev.upTo eval' stop sofar' es) := by
  induction es generalizing sofar sofar' with
  | nil => exact Run.Related.done (refined_toValue hsofar)
  | cons e es ih =>
    have ih : ∀ {t t' : Truth}, (t ≠ .unknown → t' = t) →
        ev.RunRefined (ev.upTo eval stop t es) (ev.upTo eval' stop t' es) :=
      fun ht => ih (fun e' he' => hes e' (List.mem_cons_of_mem _ he')) ht
    refine (hes e List.mem_cons_self).bind fun x x' hx => ?_
    by_cases hu : ev.truth x = .unknown
    · -- The first run can only end in `stop` from here; the second may be there already.
      simp only [hu, hstop.symm, if_true, if_false]
      by_cases hs : ev.truth x' = stop
      · rw [if_pos hs]
        intro v v' hv hv'
        cases hv'
        rcases upTo_unknown hv with rfl | rfl
        · exact Refined.refl ev _
        · exact refined_missing rfl _
      · rw [if_neg hs]
        exact ih fun h => absurd rfl h
    · rw [hx.truth hu]
      by_cases hs : ev.truth x = stop
      · simp only [hs, if_true]
        exact RunRefined.refl ev _
      · simp only [hs, hu, if_false]
        exact ih hsofar

theorem related_evalAll {es : List Expr} (hes : ∀ e ∈ es, ev.RunRefined (eval e) (eval' e)) :
    Run.Related (List.Forall₂ ev.Refined) (evalAll eval es) (evalAll eval' es) := by
  induction es with
  | nil => exact Run.Related.done .nil
  | cons e es ih =>
    refine (hes e List.mem_cons_self).bind fun x x' hx => ?_
    refine (ih fun e' he' => hes e' (List.mem_cons_of_mem _ he')).bind fun xs xs' hxs => ?_
    exact Run.Related.done (.cons hx hxs)

theorem runRefined_connective {name : String} (hname : Text.upper name ∈ ["AND", "OR", "NOT"])
    {args : List Expr}
    (hargs : ∀ e ∈ args, (codd now emptyText).RunRefined (eval e) (eval' e)) :
    (codd now emptyText).RunRefined ((codd now emptyText).evalCall eval name args)
      ((codd now emptyText).evalCall eval' name args) := by
  simp only [List.mem_cons, List.not_mem_nil, or_false] at hname
  rcases hname with hname | hname | hname
  · rw [evalCall_and _ hname, evalCall_and _ hname]
    exact runRefined_upTo (by decide) hargs fun _ => rfl
  · rw [evalCall_or _ hname, evalCall_or _ hname]
    exact runRefined_upTo (by decide) hargs fun _ => rfl
  · have ho : (codd now emptyText).registry.resolve? name = some Logic.connectives[2] :=
      Registry.resolve?_connective (List.getElem_mem _) hname
    rw [evalCall_eager ho rfl, evalCall_eager ho rfl]
    refine Run.Related.ite ?_ (Run.Related.fail_left _ _)
    refine (related_evalAll hargs).bind fun xs xs' hxs => ?_
    cases hxs with
    | nil => exact Run.Related.fail_left _ _
    | cons hx _ => exact Run.Related.done hx.not

/-! ## Expressions -/

theorem runRefined_evalWithin {r r' : Record} (hr : (codd now emptyText).RecordRefined r r')
    (levels : Nat) {e : Expr} (he : e.IsKleene) :
    (codd now emptyText).RunRefined ((codd now emptyText).evalWithin r levels e)
      ((codd now emptyText).evalWithin r' levels e) := by
  induction levels generalizing e with
  | zero => exact Run.Related.fail_left _ _
  | succ n ih =>
    rw [evalWithin, evalWithin]
    cases he with
    | literal v => exact RunRefined.refl _ _
    | field name =>
      intro v v' hv hv' hm
      have hr' := hr name v (Run.ofFaulty_outcome_ok hv) hm
      exact Except.ok.inj ((Run.ofFaulty_outcome_ok hv').symm.trans hr')
    | unary op he => exact (ih he).bind fun v v' hv => runRefined_applyUnary rfl op hv
    | binary hop hl hr =>
      refine (ih hl).bind fun a a' ha => ?_
      exact (ih hr).bind fun b b' hb => runRefined_applyBinary hop ha hb
    | call hname hargs =>
      rw [evalStep, evalStep]
      exact runRefined_connective hname fun e he => ih (hargs e he)

end

/-- Answers of the Codd regime are certain: an answer that is not missing stays the same when
missing data of the record is filled in, if there is an answer then. -/
theorem eval_certain {now : DateTime} {emptyText : Bool} {e : Expr} (he : e.IsKleene)
    {r r' : Record} (hr : (codd now emptyText).RecordRefined r r') {v v' : Value}
    (hv : ((codd now emptyText).eval r e).outcome = .ok v)
    (hm : (codd now emptyText).isMissing v = false)
    (hv' : ((codd now emptyText).eval r' e).outcome = .ok v') : v' = v :=
  runRefined_evalWithin hr levelLimit he v v' hv hv' hm

/-- Without the amount the conjunction goes on to its second argument, which is false; with it the
conjunction stops at the first. -/
theorem eval_certain_amount :
    let ev := codd Registry.epoch true
    let e : Expr := .call "AND" [.field "amount", .unary .not (.field "paid")]
    let r : Record := [("paid", .bool true), ("amount", .null)]
    let r' : Record := [("paid", .bool true), ("amount", .int 0)]
    ∃ v, (ev.eval r e).outcome = .ok v ∧ ∀ v', (ev.eval r' e).outcome = .ok v' → v' = v := by
  intro ev e r r'
  have hname : Text.upper "AND" = "AND" := Text.upper_of_isBeforeSmall (by decide)
  have hv : (ev.eval r e).outcome = .ok (.bool false) := by
    rw [eval, levelLimit, evalWithin, evalStep, evalCall_and _ hname]
    rfl
  have hr : ev.RecordRefined r r' := by
    intro name v hv hm
    by_cases hpaid : name = "paid"
    · subst hpaid
      exact hv
    · have hget : r.get name = .null := by
        by_cases hamount : name = "amount"
        · subst hamount
          rfl
        · simp [r, Record.get, Value.lookup, Ne.symm hpaid, Ne.symm hamount, Value.keptBy,
            Value.keptAt]
      rw [hget] at hv
      cases hv
      cases hm
  refine ⟨.bool false, hv, fun v' hv' => eval_certain ?_ hr hv rfl hv'⟩
  refine .call (by simp [hname]) ?_
  simp only [List.mem_cons, List.not_mem_nil, or_false, forall_eq_or_imp, forall_eq]
  exact ⟨.field _, .unary _ (.field _)⟩

end Evaluator

end RecordCalc
