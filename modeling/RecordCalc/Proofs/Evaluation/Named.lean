import RecordCalc.Proofs.Evaluation.Regimes

/-
  Operators called by name. With the built-in operators, the call of an infix operator by its id is
  the infix form, and the call of a negation the negation. The call of a sign differs from the sign
  in the Codd regime: it is the rule alone, which takes a missing operand as zero.
-/

namespace RecordCalc

open Calendar (DateTime)

namespace Evaluator

section
variable {now : DateTime} {ev : Evaluator} {o : Operator} {r : Record}

/-! ## Calls by id -/

/-- A call of an operator by its id, if the operator evaluates all its arguments. -/
theorem evalCall_id (hreg : ev.registry = .builtIn now) (ho : o ∈ builtInOperators now)
    (hid : o.id ∉ Registry.lazyIds) {args : List Expr} (hargs : o.accepts args.length = true)
    (eval : Expr → Run Value) :
    ev.evalCall eval o.id args = evalAll eval args >>= ev.applyCall o := by
  have hresolve : ev.registry.resolve? o.id = some o := by rw [hreg, Registry.resolve?_id ho]
  rw [evalCall_eager hresolve (Registry.isLazy_eq_false ho hid), if_pos hargs]

theorem evalWithin_call_single (hreg : ev.registry = .builtIn now) (ho : o ∈ builtInOperators now)
    (hid : o.id ∉ Registry.lazyIds) (hargs : o.accepts 1 = true) (n : Nat) (x : Expr) :
    ev.evalWithin r (n + 1) (.call o.id [x]) =
      ev.evalWithin r n x >>= fun a => ev.applyCall o [a] := by
  have hlength : o.accepts [x].length = true := hargs
  rw [evalWithin, evalStep, evalCall_id hreg ho hid hlength]
  simp only [evalAll, bind_assoc]
  rfl

theorem evalWithin_call_pair (hreg : ev.registry = .builtIn now) (ho : o ∈ builtInOperators now)
    (hid : o.id ∉ Registry.lazyIds) (hargs : o.accepts 2 = true) (n : Nat) (x y : Expr) :
    ev.evalWithin r (n + 1) (.call o.id [x, y]) =
      ev.evalWithin r n x >>= fun a => ev.evalWithin r n y >>= fun b =>
        ev.applyCall o [a, b] := by
  have hlength : o.accepts [x, y].length = true := hargs
  rw [evalWithin, evalStep, evalCall_id hreg ho hid hlength]
  simp only [evalAll, bind_assoc]
  rfl

/-! ## Infix operators -/

/-- Once evaluated, operands do not tell an infix operator from its call. -/
theorem applyBinary_eq {op : BinaryOp} (hid : op.operatorId? = some o.id)
    (hget : ev.registry.get o.id = .ok o) (a b : Value) :
    ev.applyBinary op a b = ev.applyCall o [a, b] := by
  have hnot : o.id ≠ "NOT" := by
    intro h
    rw [h] at hid
    cases op <;> simp [BinaryOp.operatorId?] at hid
  simp only [applyBinary, applyCall, hid, hget, Run.ofExcept_ok_bind]
  cases harith : arithmeticIds.contains o.id with
  | true => rfl
  | false => simp [hnot]

/-- An infix operator of arithmetic converts its operands. -/
theorem applyBinary_arithmetic {op : BinaryOp} {id : String} (hid : op.operatorId? = some id)
    (harith : id ∈ arithmeticIds) (a b : Value) :
    ev.applyBinary op a b =
      Run.ofExcept (ev.registry.get id) >>= fun o => ev.arithmetic o a b := by
  have hcontains : arithmeticIds.contains id = true := List.contains_iff_mem.2 harith
  simp only [applyBinary, hid, hcontains, if_true]

theorem exists_infix (now : DateTime) {op : BinaryOp} {id : String}
    (hid : op.operatorId? = some id) : ∃ o ∈ builtInOperators now, o.id = id := by
  have hall : ∀ id ∈ Registry.pairIds, id ∈ (builtInOperators Registry.epoch).map (·.id) := by
    decide +kernel
  have hmem := hall id (mem_pairIds hid)
  rw [← Registry.ids_builtInOperators now] at hmem
  exact List.mem_map.1 hmem

/-- The infix form of an operator is the call of the operator by its id. -/
theorem eval_infix (hreg : ev.registry = .builtIn now) {op : BinaryOp} {id : String}
    (hid : op.operatorId? = some id) (x y : Expr) :
    ev.eval r (.binary op x y) = ev.eval r (.call id [x, y]) := by
  obtain ⟨o, ho, rfl⟩ := exists_infix now hid
  have hget : ev.registry.get o.id = .ok o := by rw [hreg, Registry.get_builtIn ho]
  have heager : ∀ id ∈ Registry.pairIds, id ∉ Registry.lazyIds := by decide
  have hargs : o.accepts 2 = true := Registry.accepts_pair ho (mem_pairIds hid)
  rw [eval, eval, levelLimit, evalWithin_call_pair hreg ho (heager _ (mem_pairIds hid)) hargs,
    evalWithin, evalStep]
  simp only [applyBinary_eq hid hget]

/-! ## Negations and signs -/

/-- The call of a negation or of a sign, once its operand is evaluated. -/
theorem applyCall_leading (ho : o ∈ builtInOperators now) (hid : o.id = "NEGATE" ∨ o.id = "NOT")
    (v : Value) :
    ev.applyCall o [v] =
      if o.id = "NOT" ∧ ev.isCodd = true then .done (ev.truth v).not.toValue
      else ev.apply o [v] := by
  have hcategory : o.category ≠ .comparison := by
    intro h
    have harity := (Registry.arity_comparison ho h).1
    rw [(Registry.arity_leading ho hid).1] at harity
    cases harity
  simp only [applyCall, hcategory, if_false, Bool.and_eq_true, decide_eq_true_eq]
  cases arithmeticIds.contains o.id <;> rfl

/-- A negation is its call, in both regimes. -/
theorem eval_not (hreg : ev.registry = .builtIn now) (x : Expr) :
    ev.eval r (.unary .not x) = ev.eval r (.call "NOT" [x]) := by
  obtain ⟨o, hget, -⟩ := Registry.get_not now
  obtain ⟨ho, hid⟩ := Registry.mem_of_get hget
  have hvalue : ev.applyUnary .not = fun v => ev.applyCall o [v] := by
    funext v
    rw [applyCall_leading ho (.inr hid), applyUnary, hreg, hget]
    simp only [hid, true_and, Run.ofExcept_ok_bind]
  have hcall : ev.eval r (.call "NOT" [x]) =
      ev.evalWithin r (levelLimit - 1) x >>= fun v => ev.applyCall o [v] := by
    rw [← hid]
    exact evalWithin_call_single hreg ho (by simp [hid, Registry.lazyIds])
      (accepts_leading ho (.inr hid)) _ x
  rw [hcall, ← hvalue]
  rfl

/-- The operands of a sign that are missing for it in the Codd regime: missing data, and values
without a number that are no dates. -/
theorem strictOperand_eq_null_iff {v : Value} :
    ev.strictOperand v = .null ↔
      ev.isMissing v = true ∨ v.isDate = false ∧ v.toNumber? = none := by
  unfold strictOperand
  cases hm : ev.isMissing v with
  | true => simp
  | false =>
    cases hd : v.isDate with
    | true => cases v <;> simp_all [Value.isDate]
    | false => cases hn : v.toNumber? <;> simp [Value.ofNumber?]

theorem apply_negate (hrule : o.rule = Rule.unary Arithmetic.negate) (v : Value) :
    (ev.apply o [v]).outcome = .ok (.number v.toNumber.neg) :=
  apply_outcome_ok (by rw [hrule]; rfl)

/-- A sign negates the number of its operand, unless the Codd regime takes that as missing. -/
theorem applyUnary_negate_iff (hget : ev.registry.get "NEGATE" = .ok o)
    (hrule : o.rule = Rule.unary Arithmetic.negate) (v : Value) :
    (ev.applyUnary .negate v).outcome = .ok (.number v.toNumber.neg) ↔
      ¬(ev.isCodd = true ∧ ev.strictOperand v = .null) := by
  simp only [applyUnary, hget, Run.ofExcept_ok_bind]
  cases hc : ev.isCodd with
  | false => simp [apply_negate hrule]
  | true =>
    simp only [if_true, true_and]
    split
    · next hv => simp [hv, Run.done]
    · next hv =>
      rw [apply_negate hrule, (sameOperand_strictOperand hv).toNumber]
      exact ⟨fun _ => hv, fun _ => rfl⟩

/-- A sign comes to what its call comes to, unless the Codd regime takes its operand as missing. -/
theorem eval_negate_iff (hreg : ev.registry = .builtIn now) (x : Expr) :
    (ev.eval r (.unary .negate x)).outcome = (ev.eval r (.call "NEGATE" [x])).outcome ↔
      ¬(ev.isCodd = true ∧ ∃ v, (ev.evalWithin r (levelLimit - 1) x).outcome = .ok v ∧
        ev.strictOperand v = .null) := by
  obtain ⟨o, hget, hrule⟩ := Registry.get_negate now
  obtain ⟨ho, hid⟩ := Registry.mem_of_get hget
  rw [← hreg] at hget
  have hcall : ev.eval r (.call "NEGATE" [x]) =
      ev.evalWithin r (levelLimit - 1) x >>= fun v => ev.applyCall o [v] := by
    rw [← hid]
    exact evalWithin_call_single hreg ho (by simp [hid, Registry.lazyIds])
      (accepts_leading ho (.inl hid)) _ x
  have hsign : ev.eval r (.unary .negate x) =
      ev.evalWithin r (levelLimit - 1) x >>= ev.applyUnary .negate := rfl
  rw [hcall, hsign]
  cases hx : (ev.evalWithin r (levelLimit - 1) x).outcome with
  | error f =>
    rw [Run.bind_outcome_of_error hx, Run.bind_outcome_of_error hx]
    simp
  | ok v =>
    have hnot : ¬(o.id = "NOT" ∧ ev.isCodd = true) := by simp [hid]
    rw [Run.bind_outcome_of_ok hx, Run.bind_outcome_of_ok hx, applyCall_leading ho (.inl hid),
      if_neg hnot, apply_negate hrule, applyUnary_negate_iff hget hrule]
    simp

end

/-- Operators called by name follow the regime like their infix forms: every infix operator and the
negation, always, and the sign, unless in the Codd regime its operand is missing data or a value
without a number that is no date. -/
theorem eval_eq_call_iff (now : DateTime) (mode : NullMode) (emptyText : Bool) (r : Record) :
    let ev : Evaluator := ⟨.builtIn now, mode, emptyText⟩
    (∀ op id, op.operatorId? = some id → ∀ x y,
      ev.eval r (.binary op x y) = ev.eval r (.call id [x, y])) ∧
    (∀ x, ev.eval r (.unary .not x) = ev.eval r (.call "NOT" [x])) ∧
    ∀ x, (ev.eval r (.unary .negate x)).outcome = (ev.eval r (.call "NEGATE" [x])).outcome ↔
      ¬(mode = .codd ∧ ∃ v, (ev.evalWithin r (levelLimit - 1) x).outcome = .ok v ∧
        (ev.isMissing v = true ∨ v.isDate = false ∧ v.toNumber? = none)) := by
  intro ev
  have hcodd : ev.isCodd = true ↔ mode = .codd := beq_iff_eq
  have hreg : ev.registry = .builtIn now := rfl
  refine ⟨fun op id hid => eval_infix hreg hid, eval_not hreg, fun x => ?_⟩
  rw [eval_negate_iff hreg, hcodd]
  simp only [strictOperand_eq_null_iff]

theorem eval_eq_call_less :
    let ev := codd Registry.epoch true
    let r : Record := [("a", .int 1)]
    ev.eval r (.binary .less (.field "a") (.field "b")) =
      ev.eval r (.call "LESS_THAN" [.field "a", .field "b"]) :=
  (eval_eq_call_iff Registry.epoch .codd true [("a", .int 1)]).1 .less "LESS_THAN" rfl _ _

/-- The sign of missing data is missing, its call is zero. -/
theorem eval_negate_ne_call :
    ((codd Registry.epoch true).eval [] (.unary .negate (.field "x"))).outcome ≠
      ((codd Registry.epoch true).eval [] (.call "NEGATE" [.field "x"])).outcome := by
  rw [Ne, eval_negate_iff (registry_codd Registry.epoch true), not_not]
  exact ⟨rfl, .null, rfl, rfl⟩

end Evaluator

end RecordCalc
