import RecordCalc.Evaluation.Eval
import RecordCalc.Proofs.Operator.BuiltIn

/-
  Rules and calls of functions. What an application comes to follows from what the rule comes to
  (`apply_outcome_ok`, `apply_outcome_fault`). What a call comes to is said once for lazy operators
  (`evalCall_lazy`) and once for the others (`evalCall_eager`). The connectives of three-valued
  logic are one function of the truth value that decides them (`upTo`), and so are the calls of
  `AND` and `OR` in the Codd regime.
-/

namespace RecordCalc

open Calendar (DateTime)

namespace Registry

theorem mem_builtIn_comparison {now : DateTime} {o : Operator} (ho : o ∈ Logic.comparisons) :
    o ∈ builtInOperators now := by
  simp [builtInOperators, Logic.operators, ho]

theorem mem_builtIn_connective {now : DateTime} {o : Operator} (ho : o ∈ Logic.connectives) :
    o ∈ builtInOperators now := by
  simp [builtInOperators, Logic.operators, ho]

theorem category_comparison {o : Operator} (ho : o ∈ Logic.comparisons) :
    o.category = .comparison := by
  have hall : ∀ o ∈ Logic.comparisons, o.category = .comparison := by simp [Logic.comparisons]
  exact hall o ho

theorem resolve?_connective {now : DateTime} {o : Operator} (ho : o ∈ Logic.connectives)
    {name : String} (hname : Text.upper name = o.id) : (builtIn now).resolve? name = some o :=
  resolve?_of_upper (mem_builtIn_connective ho) hname

end Registry

namespace Evaluator

/-- The evaluator of the built-in operators in the Codd regime. -/
def codd (now : DateTime) (emptyText : Bool) : Evaluator := ⟨.builtIn now, .codd, emptyText⟩

/-! ## Applying rules -/

section
variable {ev : Evaluator} {o : Operator} {args args' : List Value} {v : Value}

theorem apply_outcome_ok (h : o.rule args = .ok v) :
    (ev.apply o args).outcome = .ok v := by
  simp [apply, Run.applyRule, h, Run.guarded]

theorem apply_outcome_fault {f : Fault} (h : o.rule args = .error (.fault f)) :
    (ev.apply o args).outcome =
      .error (if f.kind.isOperatorFault then .ruleFault o.displayName o.id f else .fault f) := by
  cases hf : f.kind.isOperatorFault <;>
    simp [apply, Run.applyRule, h, Run.guarded, hf, Failure.isKind, Failure.kind?,
      FailureKind.ancestry]

theorem apply_congr (h : o.rule args = o.rule args') :
    (ev.apply o args).outcome = (ev.apply o args').outcome := by
  unfold apply Run.applyRule
  rw [h]
  dsimp only
  split
  · split <;> rfl
  · rfl

end

/-! ## Calls -/

section
variable {ev : Evaluator} {name : String} {args : List Expr} {o : Operator}

/-- A call of a lazy operator, if it has the right number of arguments. -/
theorem evalCall_lazy {run : (Expr → Run Value) → List Expr → Run Value}
    (ho : ev.registry.resolve? name = some o) (hlazy : o.isLazy = true)
    (hrun : ev.lazy? o.id = some run) (eval : Expr → Run Value) :
    ev.evalCall eval name args =
      if o.accepts args.length then run eval args
      else .fail (.arity name o.arityText args.length) := by
  unfold evalCall
  rw [ho]
  simp only [hlazy, hrun, if_true]
  cases o.accepts args.length <;> rfl

/-- A call of an operator that is not lazy, if it has the right number of arguments. -/
theorem evalCall_eager (ho : ev.registry.resolve? name = some o) (hlazy : o.isLazy = false)
    (eval : Expr → Run Value) :
    ev.evalCall eval name args =
      if o.accepts args.length then do ev.applyCall o (← evalAll eval args)
      else .fail (.arity name o.arityText args.length) := by
  unfold evalCall
  rw [ho]
  simp only [hlazy, Bool.false_eq_true, if_false]
  cases o.accepts args.length <;> rfl

end

/-! ## Connectives of three-valued logic -/

/-- Goes through arguments up to the first of the truth value `stop`, which decides. If there is
none, one unknown argument makes the result unknown, and else it is `sofar`. -/
def upTo (ev : Evaluator) (eval : Expr → Run Value) (stop sofar : Truth) :
    List Expr → Run Value
  | [] => .done sofar.toValue
  | e :: es => do
    let t := ev.truth (← eval e)
    if t = stop then return stop.toValue
    else upTo ev eval stop (if t = .unknown then .unknown else sofar) es

variable (ev : Evaluator) (eval : Expr → Run Value)

theorem conjunction_eq_upTo {sofar : Truth} (h : sofar ≠ .no) (es : List Expr) :
    ev.conjunction eval sofar es = ev.upTo eval .no sofar es := by
  induction es generalizing sofar with
  | nil => rfl
  | cons e es ih =>
    rw [conjunction, upTo]
    congr 1
    funext v
    cases ev.truth v with
    | no => rfl
    | unknown =>
      have hand : sofar.and .unknown = .unknown := by cases sofar <;> trivial
      simp [hand, ih]
    | yes =>
      have hand : sofar.and .yes = sofar := by cases sofar <;> rfl
      simp [hand, ih h]

theorem disjunction_eq_upTo {sofar : Truth} (h : sofar ≠ .yes) (es : List Expr) :
    ev.disjunction eval sofar es = ev.upTo eval .yes sofar es := by
  induction es generalizing sofar with
  | nil => rfl
  | cons e es ih =>
    rw [disjunction, upTo]
    congr 1
    funext v
    cases ev.truth v with
    | no =>
      have hor : sofar.or .no = sofar := by cases sofar <;> rfl
      simp [hor, ih h]
    | unknown =>
      have hor : sofar.or .unknown = .unknown := by cases sofar <;> trivial
      simp [hor, ih]
    | yes => rfl

theorem upTo_congr {eval eval' : Expr → Run Value} {es : List Expr}
    (h : ∀ e ∈ es, eval e = eval' e) (stop sofar : Truth) :
    ev.upTo eval stop sofar es = ev.upTo eval' stop sofar es := by
  induction es generalizing sofar with
  | nil => rfl
  | cons e es ih =>
    have hes := fun t => ih (fun e' he' => h e' (List.mem_cons_of_mem _ he')) t
    simp only [upTo, h e List.mem_cons_self, hes]

section
variable {now : DateTime} {emptyText : Bool} {name : String} {args : List Expr}

theorem evalCall_and (hname : Text.upper name = "AND") :
    (codd now emptyText).evalCall eval name args =
      (codd now emptyText).upTo eval .no .yes args := by
  have ho : (codd now emptyText).registry.resolve? name = some Logic.connectives[0] :=
    Registry.resolve?_connective (List.getElem_mem _) hname
  have hrun : (codd now emptyText).lazy? Logic.connectives[0].id =
      some fun eval => (codd now emptyText).conjunction eval .yes := rfl
  rw [evalCall_lazy ho rfl hrun, if_pos (by simp [Operator.accepts, Logic.connectives])]
  exact conjunction_eq_upTo _ eval (by decide) args

theorem evalCall_or (hname : Text.upper name = "OR") :
    (codd now emptyText).evalCall eval name args =
      (codd now emptyText).upTo eval .yes .no args := by
  have ho : (codd now emptyText).registry.resolve? name = some Logic.connectives[1] :=
    Registry.resolve?_connective (List.getElem_mem _) hname
  have hrun : (codd now emptyText).lazy? Logic.connectives[1].id =
      some fun eval => (codd now emptyText).disjunction eval .no := rfl
  rw [evalCall_lazy ho rfl hrun, if_pos (by simp [Operator.accepts, Logic.connectives])]
  exact disjunction_eq_upTo _ eval (by decide) args

end

end Evaluator

end RecordCalc
