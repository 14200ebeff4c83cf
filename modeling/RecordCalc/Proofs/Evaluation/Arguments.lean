import RecordCalc.Proofs.Evaluation.Calls
import RecordCalc.Proofs.Evaluation.Run

/-
  How calls evaluate their arguments. All operators but the conditional go through them from left to
  right, connectives up to the first argument that decides, and come to what the values say
  (`evalCall_eq`). A connective is given by the values that decide it and by what the values up to
  there come to; that is what its rule says of all the values.
-/

namespace RecordCalc

/-! ## Truth values -/

namespace Truth

theorem and_no (t : Truth) : t.and no = no := by cases t <;> rfl

theorem or_yes (t : Truth) : t.or yes = yes := by cases t <;> rfl

theorem and_assoc (t u w : Truth) : (t.and u).and w = t.and (u.and w) := by
  cases t <;> cases u <;> cases w <;> rfl

theorem or_assoc (t u w : Truth) : (t.or u).or w = t.or (u.or w) := by
  cases t <;> cases u <;> cases w <;> rfl

theorem yes_and (t : Truth) : yes.and t = t := by cases t <;> rfl

theorem no_or (t : Truth) : no.or t = t := by cases t <;> rfl

end Truth

/-- The operator chooses between branches. -/
def Operator.isConditional (o : Operator) : Bool := o.isLazy && o.id == "IF"

/-- A connective: the values of arguments that decide it, and what the values up to there come
to. -/
structure Connective where
  decides : Value → Bool
  value : List Value → Value

namespace Connective

/-- Conjunction in two-valued logic. -/
def and : Connective := ⟨fun v => !v.toBoolean, fun vs => .bool (vs.all (·.toBoolean))⟩

/-- Disjunction in two-valued logic. -/
def or : Connective := ⟨fun v => v.toBoolean, fun vs => .bool (vs.any (·.toBoolean))⟩

/-- Conjunction in three-valued logic. -/
def and3 (truth : Value → Truth) : Connective :=
  ⟨fun v => truth v == .no, fun vs => (Truth.all (vs.map truth)).toValue⟩

/-- Disjunction in three-valued logic. -/
def or3 (truth : Value → Truth) : Connective :=
  ⟨fun v => truth v == .yes, fun vs => (Truth.any (vs.map truth)).toValue⟩

end Connective

namespace Evaluator

/-- The values of arguments from left to right, up to the first that decides. -/
def valuesUpTo (eval : Expr → Run Value) (decides : Value → Bool) : List Expr → Run (List Value)
  | [] => .done []
  | e :: es => do
    let v ← eval e
    if decides v then return [v] else return v :: (← valuesUpTo eval decides es)

/-- The connective that an operator is in a regime, none when it evaluates all its arguments or
chooses between them. -/
def connective? (ev : Evaluator) (o : Operator) : Option Connective :=
  if !o.isLazy then none
  else if o.id = "AND" then some (if ev.isCodd then .and3 ev.truth else .and)
  else if o.id = "OR" then some (if ev.isCodd then .or3 ev.truth else .or)
  else if o.id = "AND3" then some (.and3 ev.truth)
  else if o.id = "OR3" then some (.or3 ev.truth)
  else none

/-- Whether the arguments behind one of this value are left unevaluated. -/
def decides (ev : Evaluator) (o : Operator) (v : Value) : Bool :=
  match ev.connective? o with
  | some c => c.decides v
  | none => false

/-- What a call comes to, from the values of the arguments that it evaluates. -/
def conclude (ev : Evaluator) (o : Operator) (vs : List Value) : Run Value :=
  match ev.connective? o with
  | some c => .done (c.value vs)
  | none => ev.applyCall o vs

/-! ## Arguments up to a deciding one -/

section
variable (ev : Evaluator) (eval : Expr → Run Value) (es : List Expr)

theorem evalAll_eq : evalAll eval es = valuesUpTo eval (fun _ => false) es := by
  induction es with
  | nil => rfl
  | cons e es ih => simp [evalAll, valuesUpTo, ih]

theorem allTrue_eq :
    allTrue eval es = do
      return Connective.and.value (← valuesUpTo eval Connective.and.decides es) := by
  simp only [Connective.and]
  induction es with
  | nil => rfl
  | cons e es ih =>
    simp only [allTrue, valuesUpTo, bind_assoc]
    congr 1
    funext v
    by_cases hv : v.toBoolean = true <;> simp [hv, ih]

theorem anyTrue_eq :
    anyTrue eval es = do
      return Connective.or.value (← valuesUpTo eval Connective.or.decides es) := by
  simp only [Connective.or]
  induction es with
  | nil => rfl
  | cons e es ih =>
    simp only [anyTrue, valuesUpTo, bind_assoc]
    congr 1
    funext v
    by_cases hv : v.toBoolean = true <;> simp [hv, ih]

theorem conjunction_eq (sofar : Truth) :
    ev.conjunction eval sofar es = do
      let vs ← valuesUpTo eval (ev.truth · == .no) es
      return (sofar.and (Truth.all (vs.map ev.truth))).toValue := by
  induction es generalizing sofar with
  | nil => cases sofar <;> rfl
  | cons e es ih =>
    simp only [conjunction, valuesUpTo, bind_assoc]
    congr 1
    funext v
    by_cases hv : ev.truth v = .no
    · have hno : sofar.and (Truth.all [.no]) = .no := Truth.and_no sofar
      simp [hv, hno, Truth.toValue]
    · simp [hv, ih, Truth.all, Truth.and_assoc]

theorem disjunction_eq (sofar : Truth) :
    ev.disjunction eval sofar es = do
      let vs ← valuesUpTo eval (ev.truth · == .yes) es
      return (sofar.or (Truth.any (vs.map ev.truth))).toValue := by
  induction es generalizing sofar with
  | nil => cases sofar <;> rfl
  | cons e es ih =>
    simp only [disjunction, valuesUpTo, bind_assoc]
    congr 1
    funext v
    by_cases hv : ev.truth v = .yes
    · have hyes : sofar.or (Truth.any [.yes]) = .yes := Truth.or_yes sofar
      simp [hv, hyes, Truth.toValue]
    · simp [hv, ih, Truth.any, Truth.or_assoc]

end

/-! ## Calls -/

section
variable {ev : Evaluator} {o : Operator} {c : Connective} {name : String} {args : List Expr}

theorem connective?_eq_some (h : ev.connective? o = some c) :
    o.isLazy = true ∧
      (o.id = "AND" ∧ c = (if ev.isCodd then .and3 ev.truth else .and) ∨
        o.id = "OR" ∧ c = (if ev.isCodd then .or3 ev.truth else .or) ∨
        o.id = "AND3" ∧ c = .and3 ev.truth ∨ o.id = "OR3" ∧ c = .or3 ev.truth) := by
  unfold connective? at h
  split at h
  · cases h
  · grind

/-- A connective evaluates its arguments up to the first that decides. -/
theorem lazy?_connective (h : ev.connective? o = some c) :
    ev.lazy? o.id = some fun eval es => do return c.value (← valuesUpTo eval c.decides es) := by
  have hand : (fun eval => ev.conjunction eval .yes) = fun eval es => do
      return (Connective.and3 ev.truth).value
        (← valuesUpTo eval (Connective.and3 ev.truth).decides es) := by
    funext eval es
    simp only [conjunction_eq, Truth.yes_and, Connective.and3]
  have hor : (fun eval => ev.disjunction eval .no) = fun eval es => do
      return (Connective.or3 ev.truth).value
        (← valuesUpTo eval (Connective.or3 ev.truth).decides es) := by
    funext eval es
    simp only [disjunction_eq, Truth.no_or, Connective.or3]
  obtain ⟨-, ⟨hid, rfl⟩ | ⟨hid, rfl⟩ | ⟨hid, rfl⟩ | ⟨hid, rfl⟩⟩ := connective?_eq_some h
  · have hand2 : allTrue = fun eval es => do
        return Connective.and.value (← valuesUpTo eval Connective.and.decides es) := by
      funext eval es
      exact allTrue_eq eval es
    cases hc : ev.isCodd <;> simp [lazy?, hid, hc, hand, hand2]
  · have hor2 : anyTrue = fun eval es => do
        return Connective.or.value (← valuesUpTo eval Connective.or.decides es) := by
      funext eval es
      exact anyTrue_eq eval es
    cases hc : ev.isCodd <;> simp [lazy?, hid, hc, hor, hor2]
  · simp [lazy?, hid, hand]
  · simp [lazy?, hid, hor]

/-- An operator that is lazy without being a connective is the conditional, or has no evaluation of
its own. -/
theorem lazy?_of_connective?_eq_none (h : ev.connective? o = none) (hlazy : o.isLazy = true)
    (hid : o.id ≠ "IF") : ev.lazy? o.id = none := by
  unfold connective? at h
  unfold lazy?
  simp only [hlazy, Bool.not_true, Bool.false_eq_true, if_false] at h
  simp only [if_neg hid]
  grind

theorem evalCall_unknown (ho : ev.registry.resolve? name = none) (eval : Expr → Run Value) :
    ev.evalCall eval name args = .fail (.unknownFunction name) := by
  simp [evalCall, ho]

theorem evalCall_arity (ho : ev.registry.resolve? name = some o)
    (hargs : o.accepts args.length = false) (eval : Expr → Run Value) :
    ev.evalCall eval name args = .fail (.arity name o.arityText args.length) := by
  simp [evalCall, ho, hargs]

/-- A call of an operator that does not choose between branches evaluates its arguments from left to
right, as far as the operator needs them, and then comes to what their values say. -/
theorem evalCall_eq (ho : ev.registry.resolve? name = some o)
    (hargs : o.accepts args.length = true) (eval : Expr → Run Value) :
    ev.evalCall eval name args =
      if o.isConditional then ev.chooseBranch eval args
      else (do ev.conclude o (← valuesUpTo eval (ev.decides o) args)) := by
  cases hc : ev.connective? o with
  | some c =>
    have hid : o.id ≠ "IF" := by
      obtain ⟨-, ⟨hid, -⟩ | ⟨hid, -⟩ | ⟨hid, -⟩ | ⟨hid, -⟩⟩ := connective?_eq_some hc <;> simp [hid]
    rw [evalCall_lazy ho (connective?_eq_some hc).1 (lazy?_connective hc), if_pos hargs]
    have hdecides : ev.decides o = c.decides := by
      funext v
      simp only [decides, hc]
    have hconclude : ev.conclude o = fun vs => .done (c.value vs) := by
      funext vs
      simp only [conclude, hc]
    have hcond : o.isConditional = false := by simp [Operator.isConditional, hid]
    simp [hcond, hdecides, hconclude, pure]
  | none =>
    have hdecides : ev.decides o = fun _ => false := by
      funext v
      simp only [decides, hc]
    have hconclude : ev.conclude o = ev.applyCall o := by
      funext vs
      simp only [conclude, hc]
    rw [hdecides, hconclude, ← evalAll_eq]
    cases hlazy : o.isLazy with
    | false =>
      rw [evalCall_eager ho hlazy, if_pos hargs]
      simp [Operator.isConditional, hlazy]
    | true =>
      by_cases hid : o.id = "IF"
      · have hrun : ev.lazy? o.id = some ev.chooseBranch := by simp [lazy?, hid]
        rw [evalCall_lazy ho hlazy hrun, if_pos hargs]
        simp [Operator.isConditional, hlazy, hid]
      · have hrun := lazy?_of_connective?_eq_none hc hlazy hid
        simp [evalCall, ho, hargs, hlazy, hrun, Operator.isConditional, hid]

end

end Evaluator

end RecordCalc
