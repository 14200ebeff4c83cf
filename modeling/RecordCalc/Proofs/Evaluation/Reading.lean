import RecordCalc.Proofs.Evaluation.Calls
import RecordCalc.Proofs.Formula.Parts
import RecordCalc.Proofs.Operator.Clock

/-
  What an evaluation depends on. The present matters to calls of the clock functions alone, and of a
  record only the fields that the expression reads matter (`eval_eq_of_agree`). This goes for the
  outcome, be it a value or a failure, and for the rules applied on the way, in every regime and
  with every registry. `SameBeyondClock.evalStep` says it of one level of an expression.
-/

namespace RecordCalc

open Calendar (DateTime)

/-- The expression calls no function that gives the present. -/
def Expr.IsTimeless (e : Expr) : Prop := ∀ name ∈ e.callNames, Text.upper name ∉ clockNames

instance (e : Expr) : Decidable e.IsTimeless :=
  inferInstanceAs (Decidable (∀ name ∈ e.callNames, Text.upper name ∉ clockNames))

theorem Expr.IsTimeless.part {e p : Expr} (he : e.IsTimeless) (hp : p ∈ e.parts) :
    p.IsTimeless := fun name hname => he name (callNames_of_mem_parts hp hname)

theorem BinaryOp.operatorId?_not_clock {op : BinaryOp} {id : String}
    (h : op.operatorId? = some id) : id ∉ clockNames := by
  cases op <;> simp only [operatorId?, Option.some.injEq, reduceCtorEq] at h <;> subst h <;> decide

namespace Evaluator

/-- The evaluators differ at most in the functions that give the present. -/
structure SameBeyondClock (ev ev' : Evaluator) : Prop where
  registry : ev.registry.SameBeyondClock ev'.registry
  mode : ev.mode = ev'.mode
  emptyTextIsAbsent : ev.emptyTextIsAbsent = ev'.emptyTextIsAbsent

theorem SameBeyondClock.refl (ev : Evaluator) : ev.SameBeyondClock ev := ⟨.refl _, rfl, rfl⟩

/-- The evaluators of the built-in operators at two moments. -/
theorem SameBeyondClock.builtIn (now now' : DateTime) (mode : NullMode) (absent : Bool) :
    SameBeyondClock ⟨.builtIn now, mode, absent⟩ ⟨.builtIn now', mode, absent⟩ :=
  ⟨Registry.sameBeyondClock_builtIn now now', rfl, rfl⟩

/-! ## Lists of arguments

Each of these depends on the evaluation of its arguments alone. -/

section
variable (ev : Evaluator) {eval eval' : Expr → Run Value} {es : List Expr}

theorem evalAll_congr (h : ∀ e ∈ es, eval e = eval' e) : evalAll eval es = evalAll eval' es := by
  induction es with
  | nil => rfl
  | cons e es ih =>
    rw [evalAll, evalAll, h e List.mem_cons_self, ih fun e' he' => h e' (List.mem_cons_of_mem _ he')]

theorem allTrue_congr (h : ∀ e ∈ es, eval e = eval' e) : allTrue eval es = allTrue eval' es := by
  induction es with
  | nil => rfl
  | cons e es ih =>
    rw [allTrue, allTrue, h e List.mem_cons_self, ih fun e' he' => h e' (List.mem_cons_of_mem _ he')]

theorem anyTrue_congr (h : ∀ e ∈ es, eval e = eval' e) : anyTrue eval es = anyTrue eval' es := by
  induction es with
  | nil => rfl
  | cons e es ih =>
    rw [anyTrue, anyTrue, h e List.mem_cons_self, ih fun e' he' => h e' (List.mem_cons_of_mem _ he')]

theorem chooseBranch_congr (h : ∀ e ∈ es, eval e = eval' e) :
    ev.chooseBranch eval es = ev.chooseBranch eval' es := by
  match es with
  | [] => rfl
  | [condition] => simp only [chooseBranch, h condition (by simp)]
  | [condition, yes] => simp only [chooseBranch, h condition (by simp), h yes (by simp)]
  | condition :: yes :: no :: _ =>
    simp only [chooseBranch, h condition (by simp), h yes (by simp), h no (by simp)]

theorem lazy?_congr {id : String} {run : (Expr → Run Value) → List Expr → Run Value}
    (hrun : ev.lazy? id = some run) (h : ∀ e ∈ es, eval e = eval' e) :
    run eval es = run eval' es := by
  have hand : ev.conjunction eval .yes es = ev.conjunction eval' .yes es := by
    rw [conjunction_eq_upTo ev eval (by decide), conjunction_eq_upTo ev eval' (by decide),
      ev.upTo_congr h]
  have hor : ev.disjunction eval .no es = ev.disjunction eval' .no es := by
    rw [disjunction_eq_upTo ev eval (by decide), disjunction_eq_upTo ev eval' (by decide),
      ev.upTo_congr h]
  unfold lazy? at hrun
  split at hrun
  · cases hrun
    exact ev.chooseBranch_congr h
  split at hrun
  · cases hrun
    cases ev.isCodd
    · exact allTrue_congr h
    · exact hand
  split at hrun
  · cases hrun
    cases ev.isCodd
    · exact anyTrue_congr h
    · exact hor
  split at hrun
  · cases hrun
    exact hand
  split at hrun
  · cases hrun
    exact hor
  · cases hrun

end

/-! ## Two evaluators and two records -/

section
variable {ev ev' : Evaluator}

/-- What two evaluators with the same treatment of missing data have in common. -/
theorem SameBeyondClock.treatment (h : ev.SameBeyondClock ev') :
    ev' = { ev with registry := ev'.registry } := by
  obtain ⟨-, hmode, habsent⟩ := h
  obtain ⟨reg, mode, absent⟩ := ev
  obtain ⟨reg', mode', absent'⟩ := ev'
  cases hmode
  cases habsent
  rfl

theorem SameBeyondClock.truth (h : ev.SameBeyondClock ev') : ev.truth = ev'.truth := by
  rw [h.treatment]
  rfl

theorem SameBeyondClock.isCodd (h : ev.SameBeyondClock ev') : ev.isCodd = ev'.isCodd := by
  rw [h.treatment]
  rfl

theorem SameBeyondClock.chooseBranch (h : ev.SameBeyondClock ev') :
    ev.chooseBranch = ev'.chooseBranch := by
  rw [h.treatment]
  rfl

theorem SameBeyondClock.upTo (h : ev.SameBeyondClock ev') (eval : Expr → Run Value)
    (stop sofar : Truth) (es : List Expr) :
    ev.upTo eval stop sofar es = ev'.upTo eval stop sofar es := by
  induction es generalizing sofar with
  | nil => rfl
  | cons e es ih => simp only [Evaluator.upTo, h.truth, ih]

theorem SameBeyondClock.lazy? (h : ev.SameBeyondClock ev') (id : String) :
    ev.lazy? id = ev'.lazy? id := by
  have hand : (fun eval => ev.conjunction eval .yes) = fun eval => ev'.conjunction eval .yes := by
    funext eval es
    rw [conjunction_eq_upTo ev eval (by decide), conjunction_eq_upTo ev' eval (by decide), h.upTo]
  have hor : (fun eval => ev.disjunction eval .no) = fun eval => ev'.disjunction eval .no := by
    funext eval es
    rw [disjunction_eq_upTo ev eval (by decide), disjunction_eq_upTo ev' eval (by decide), h.upTo]
  unfold Evaluator.lazy?
  rw [h.chooseBranch, h.isCodd, hand, hor]

theorem SameBeyondClock.applyCall (h : ev.SameBeyondClock ev') (o : Operator)
    (args : List Value) : ev.applyCall o args = ev'.applyCall o args := by
  rw [h.treatment]
  rfl

theorem SameBeyondClock.applyBinary (h : ev.SameBeyondClock ev') (op : BinaryOp) (a b : Value) :
    ev.applyBinary op a b = ev'.applyBinary op a b := by
  unfold Evaluator.applyBinary
  cases hid : op.operatorId? with
  | none => rfl
  | some id =>
    dsimp only
    rw [h.registry.get id (op.operatorId?_not_clock hid), h.treatment]
    rfl

theorem SameBeyondClock.applyUnary (h : ev.SameBeyondClock ev') (op : UnaryOp) (v : Value) :
    ev.applyUnary op v = ev'.applyUnary op v := by
  have hnegate := h.registry.get "NEGATE" (by decide)
  have hnot := h.registry.get "NOT" (by decide)
  unfold Evaluator.applyUnary
  rw [hnegate, hnot, h.treatment]
  rfl

variable {r r' : Record} {eval eval' : Expr → Run Value}

theorem SameBeyondClock.evalCall (h : ev.SameBeyondClock ev') {name : String} {args : List Expr}
    (hname : Text.upper name ∉ clockNames) (hargs : ∀ e ∈ args, eval e = eval' e) :
    ev.evalCall eval name args = ev'.evalCall eval' name args := by
  unfold Evaluator.evalCall
  rw [h.registry.resolve? name hname]
  cases ev'.registry.resolve? name with
  | none => rfl
  | some o =>
    dsimp only
    split
    · rfl
    rw [h.lazy?, evalAll_congr hargs, funext (h.applyCall o)]
    cases hrun : if o.isLazy then ev'.lazy? o.id else none with
    | none => rfl
    | some run =>
      have hlazy : ev'.lazy? o.id = some run := (Option.ite_none_right_eq_some.1 hrun).2
      exact ev'.lazy?_congr hlazy hargs

/-- One step of an evaluation depends on the parts, on the name of a call and on the field of a
reference. -/
theorem SameBeyondClock.evalStep (h : ev.SameBeyondClock ev') {e : Expr} (he : e.IsTimeless)
    (hr : ∀ name ∈ e.references, r.get name = r'.get name)
    (hparts : ∀ p ∈ e.parts, eval p = eval' p) :
    ev.evalStep r eval e = ev'.evalStep r' eval' e := by
  cases e with
  | literal | bare => rfl
  | field name => rw [Evaluator.evalStep, Evaluator.evalStep, hr name List.mem_cons_self]
  | call name args => exact h.evalCall (he name List.mem_cons_self) hparts
  | unary op e =>
    rw [Evaluator.evalStep, Evaluator.evalStep, hparts e List.mem_cons_self,
      funext (h.applyUnary op)]
  | binary op left right =>
    have hleft : eval left = eval' left := hparts left (by simp [Expr.parts])
    have hright : eval right = eval' right := hparts right (by simp [Expr.parts])
    simp only [Evaluator.evalStep, hleft, hright, h.applyBinary]

theorem SameBeyondClock.evalWithin (h : ev.SameBeyondClock ev') (levels : Nat) {e : Expr}
    (he : e.IsTimeless) (hr : ∀ name ∈ e.references, r.get name = r'.get name) :
    ev.evalWithin r levels e = ev'.evalWithin r' levels e := by
  induction levels generalizing e with
  | zero => rfl
  | succ n ih =>
    refine h.evalStep he hr fun p hp => ih (he.part hp) fun name hname => ?_
    exact hr name (Expr.references_of_mem_parts hp hname)

end

/-- An evaluation reads only the fields of the expression: with two records that agree on these,
and at any two moments, an expression that does not ask for the present comes to the same value or
to the same failure, by the same applications of rules. -/
theorem eval_eq_of_agree {ev ev' : Evaluator} (hev : ev.SameBeyondClock ev') {e : Expr}
    (he : e.IsTimeless) {r r' : Record} (hr : ∀ name ∈ e.fields, r.get name = r'.get name) :
    ev.eval r e = ev'.eval r' e :=
  hev.evalWithin levelLimit he fun name hname => hr name (Expr.mem_fields.2 hname)

/-- The two records agree on `a` and `b`, and neither has a `c`. -/
theorem eval_eq_of_agree_order :
    let now := Registry.epoch
    let now' := DateTime.ofDate ⟨2024, 2, 29, by decide⟩
    let e : Expr := .call "IF"
      [.call "AND" [.field "a", .binary .greater (.field "b") (.literal (.int 1))],
        .binary .multiply (.field "b") (.field "b"), .field "c"]
    let r : Record := [("a", .bool true), ("b", .int 7), ("z", .int 1)]
    let r' : Record := [("z", .text "other"), ("b", .int 7), ("a", .bool true), ("y", .null)]
    eval ⟨.builtIn now, .codd, true⟩ r e = eval ⟨.builtIn now', .codd, true⟩ r' e := by
  intro now now' e r r'
  have he : e.IsTimeless := by
    intro name hname
    have hnames : e.callNames = ["IF", "AND"] := rfl
    rw [hnames] at hname
    rcases List.mem_pair.1 hname with rfl | rfl <;>
      rw [Text.upper_of_isBeforeSmall (by decide)] <;> decide
  refine eval_eq_of_agree (.builtIn now now' .codd true) he ?_
  intro name hname
  have hreferences : e.references = ["a", "b", "b", "b", "c"] := rfl
  rw [Expr.mem_fields, hreferences] at hname
  simp only [List.mem_cons, List.not_mem_nil, or_false] at hname
  rcases hname with rfl | rfl | rfl | rfl | rfl <;> rfl

end Evaluator

end RecordCalc
