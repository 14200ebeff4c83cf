import RecordCalc.Proofs.Evaluation.ThreeValued

/-
  De Morgan's laws. A connective and its dual stop at the same argument when the dual takes the
  negated arguments, and then come to opposite values (`Connective.Dual`). So the negation of a
  conjunction is the disjunction of the negations and the other way round, in both regimes, with
  values and failures alike (`eval_not_connective`).
-/

namespace RecordCalc

open Calendar (DateTime)

namespace Truth

theorem not_not (t : Truth) : t.not.not = t := by cases t <;> rfl

theorem not_and (t u : Truth) : (t.and u).not = t.not.or u.not := by cases t <;> cases u <;> rfl

theorem not_or (t u : Truth) : (t.or u).not = t.not.and u.not := by cases t <;> cases u <;> rfl

theorem not_all (ts : List Truth) : (all ts).not = any (ts.map not) := by
  induction ts with
  | nil => rfl
  | cons t ts ih =>
    show (t.and (all ts)).not = t.not.or (any (ts.map not))
    rw [not_and, ih]

theorem not_any (ts : List Truth) : (any ts).not = all (ts.map not) := by
  induction ts with
  | nil => rfl
  | cons t ts ih =>
    show (t.or (any ts)).not = t.not.and (all (ts.map not))
    rw [not_or, ih]

/-- A truth value is the truth of the value that stands for it. -/
theorem truth_toValue (t : Truth) (emptyText : Bool) : t.toValue.truth emptyText = t := by
  cases t <;> rfl

end Truth

namespace Connective

/-- Two connectives are dual under a negation: what decides the one decides the other once it is
negated, and on negated values the other comes to the opposite. -/
structure Dual (negated : Value → Value) (c c' : Connective) : Prop where
  decides : ∀ v, c'.decides (negated v) = c.decides v
  value : ∀ vs, c'.value (vs.map negated) = negated (c.value vs)

/-- Negation in two-valued logic. -/
def not (v : Value) : Value := .bool !v.toBoolean

/-- Negation in three-valued logic. -/
def not3 (truth : Value → Truth) (v : Value) : Value := (truth v).not.toValue

/-! ## Two-valued logic -/

theorem toBoolean_not (v : Value) : (not v).toBoolean = !v.toBoolean := rfl

theorem dual_and : Dual not and or where
  decides := toBoolean_not
  value vs := by
    have hany : ((vs.map not).any (·.toBoolean)) = !vs.all (·.toBoolean) := by
      simp only [List.any_map, List.not_all_eq_any_not]
      rfl
    show Value.bool _ = .bool _
    rw [hany]
    rfl

theorem dual_or : Dual not or and where
  decides v := by
    show (!(not v).toBoolean) = v.toBoolean
    rw [toBoolean_not, Bool.not_not]
  value vs := by
    have hall : ((vs.map not).all (·.toBoolean)) = !vs.any (·.toBoolean) := by
      simp only [List.all_map, List.not_any_eq_all_not]
      rfl
    show Value.bool _ = .bool _
    rw [hall]
    rfl

/-! ## Three-valued logic -/

section
variable {truth : Value → Truth} (htruth : ∀ t : Truth, truth t.toValue = t)
include htruth

theorem truth_not3 (v : Value) : truth (not3 truth v) = (truth v).not := htruth _

theorem map_truth_not3 (vs : List Value) :
    (vs.map (not3 truth)).map truth = (vs.map truth).map Truth.not := by
  rw [List.map_map, List.map_map]
  exact List.map_congr_left fun v _ => truth_not3 htruth v

theorem dual_and3 : Dual (not3 truth) (and3 truth) (or3 truth) where
  decides v := by
    show (truth (not3 truth v) == .yes) = (truth v == .no)
    rw [truth_not3 htruth]
    cases truth v <;> rfl
  value vs := by
    show (Truth.any _).toValue = (truth (Truth.all _).toValue).not.toValue
    rw [htruth, map_truth_not3 htruth, Truth.not_all]

theorem dual_or3 : Dual (not3 truth) (or3 truth) (and3 truth) where
  decides v := by
    show (truth (not3 truth v) == .no) = (truth v == .yes)
    rw [truth_not3 htruth]
    cases truth v <;> rfl
  value vs := by
    show (Truth.all _).toValue = (truth (Truth.any _).toValue).not.toValue
    rw [htruth, map_truth_not3 htruth, Truth.not_any]

end

end Connective

namespace Evaluator

/-- The negation of a regime. -/
def negated (ev : Evaluator) : Value → Value :=
  if ev.isCodd then Connective.not3 ev.truth else Connective.not

/-- The call that negates an expression. -/
def negation (x : Expr) : Expr := .call "NOT" [x]

section
variable {now : DateTime} {ev : Evaluator} {r : Record} {o : Operator}

/-- A negation comes to the negated value, or fails as its argument does. -/
theorem evalWithin_negation (hreg : ev.registry = .builtIn now) (n : Nat) (x : Expr) :
    (ev.evalWithin r (n + 1) (negation x)).outcome =
      ev.negated <$> (ev.evalWithin r n x).outcome := by
  obtain ⟨o, hget, hrule⟩ := Registry.get_not now
  obtain ⟨ho, hid⟩ := Registry.mem_of_get hget
  have happly : ∀ v, (ev.applyCall o [v]).outcome = .ok (ev.negated v) := by
    intro v
    rw [applyCall_leading ho (.inr hid), negated]
    cases hc : ev.isCodd with
    | true =>
      rw [if_pos ⟨hid, rfl⟩]
      rfl
    | false =>
      rw [if_neg (by simp)]
      exact apply_not hrule
  rw [negation, ← hid, evalWithin_call_single hreg ho (by simp [hid, Registry.lazyIds])
    (accepts_leading ho (.inr hid)), Run.bind_outcome]
  simp only [happly]
  rfl

/-- Among negated arguments, the dual of a connective stops where the connective stops among the
arguments themselves. -/
theorem valuesUpTo_negation (hreg : ev.registry = .builtIn now) {c c' : Connective}
    (hdual : c.Dual ev.negated c') (n : Nat) (es : List Expr) :
    (valuesUpTo (ev.evalWithin r (n + 1)) c'.decides (es.map negation)).outcome =
      List.map ev.negated <$> (valuesUpTo (ev.evalWithin r n) c.decides es).outcome := by
  induction es with
  | nil => rfl
  | cons e es ih =>
    rw [List.map_cons, valuesUpTo, valuesUpTo, Run.bind_outcome, Run.bind_outcome,
      evalWithin_negation hreg]
    cases he : (ev.evalWithin r n e).outcome with
    | error f => rfl
    | ok v =>
      show Run.outcome (if c'.decides (ev.negated v) then _ else _) =
        _ <$> Run.outcome (if c.decides v then _ else _)
      rw [hdual.decides]
      cases c.decides v with
      | true => rfl
      | false =>
        simp only [Bool.false_eq_true, if_false, Run.bind_outcome, ih]
        cases (valuesUpTo (ev.evalWithin r n) c.decides es).outcome <;> rfl

/-- The connective that stands for conjunction in a regime. -/
def conjunctive (ev : Evaluator) : Connective := if ev.isCodd then .and3 ev.truth else .and

/-- The connective that stands for disjunction in a regime. -/
def disjunctive (ev : Evaluator) : Connective := if ev.isCodd then .or3 ev.truth else .or

theorem dual_conjunctive (ev : Evaluator) : ev.conjunctive.Dual ev.negated ev.disjunctive := by
  unfold conjunctive disjunctive negated
  cases ev.isCodd with
  | true => exact Connective.dual_and3 fun t => t.truth_toValue _
  | false => exact Connective.dual_and

theorem dual_disjunctive (ev : Evaluator) : ev.disjunctive.Dual ev.negated ev.conjunctive := by
  unfold conjunctive disjunctive negated
  cases ev.isCodd with
  | true => exact Connective.dual_or3 fun t => t.truth_toValue _
  | false => exact Connective.dual_or

/-- The call of a connective, by the values up to the one that decides. -/
theorem evalWithin_connective (hreg : ev.registry = .builtIn now) {id : String}
    (hid : id ∈ ["AND", "OR", "AND3", "OR3"]) {c : Connective}
    (hc : ∀ o : Operator, o.id = id → o.isLazy = true → ev.connective? o = some c) (n : Nat)
    (es : List Expr) :
    (ev.evalWithin r (n + 1) (.call id es)).outcome =
      c.value <$> (valuesUpTo (ev.evalWithin r n) c.decides es).outcome := by
  obtain ⟨o, ho, rfl, hlazy, hargs⟩ := Registry.exists_connective now hid
  have hresolve : ev.registry.resolve? o.id = some o := by rw [hreg, Registry.resolve?_id ho]
  have hrun := lazy?_connective (hc o rfl hlazy)
  rw [evalWithin, evalStep, evalCall_lazy hresolve hlazy hrun, if_pos (hargs es.length),
    Run.bind_outcome]
  rfl

theorem connective?_and (o : Operator) (hid : o.id = "AND") (hlazy : o.isLazy = true) :
    ev.connective? o = some ev.conjunctive := by
  simp [connective?, hid, hlazy, conjunctive]

theorem connective?_or (o : Operator) (hid : o.id = "OR") (hlazy : o.isLazy = true) :
    ev.connective? o = some ev.disjunctive := by
  simp [connective?, hid, hlazy, disjunctive]

/-- The negation of a connective is its dual on the negated arguments. -/
theorem evalWithin_negation_connective (hreg : ev.registry = .builtIn now) {id id' : String}
    (hid : id ∈ ["AND", "OR", "AND3", "OR3"]) (hid' : id' ∈ ["AND", "OR", "AND3", "OR3"])
    {c c' : Connective}
    (hc : ∀ o : Operator, o.id = id → o.isLazy = true → ev.connective? o = some c)
    (hc' : ∀ o : Operator, o.id = id' → o.isLazy = true → ev.connective? o = some c')
    (hdual : c.Dual ev.negated c') (n : Nat) (es : List Expr) :
    (ev.evalWithin r (n + 2) (negation (.call id es))).outcome =
      (ev.evalWithin r (n + 2) (.call id' (es.map negation))).outcome := by
  rw [evalWithin_negation hreg, evalWithin_connective hreg hid hc,
    evalWithin_connective hreg hid' hc', valuesUpTo_negation hreg hdual]
  cases (valuesUpTo (ev.evalWithin r n) c.decides es).outcome with
  | error f => rfl
  | ok vs =>
    show Except.ok (ev.negated (c.value vs)) = .ok (c'.value (vs.map ev.negated))
    rw [hdual.value]

end

/-- De Morgan's laws: in both regimes and on every record, the negation of a conjunction comes to
the value or the failure of the disjunction of the negated arguments, and the negation of a
disjunction to that of the conjunction of the negated arguments. -/
theorem eval_not_connective (now : DateTime) (mode : NullMode) (emptyText : Bool) (r : Record)
    (xs : List Expr) :
    let ev : Evaluator := ⟨.builtIn now, mode, emptyText⟩
    (ev.eval r (negation (.call "AND" xs))).outcome =
        (ev.eval r (.call "OR" (xs.map negation))).outcome ∧
      (ev.eval r (negation (.call "OR" xs))).outcome =
        (ev.eval r (.call "AND" (xs.map negation))).outcome := by
  intro ev
  have hreg : ev.registry = .builtIn now := rfl
  constructor
  · exact evalWithin_negation_connective hreg (by decide) (by decide) connective?_and
      connective?_or ev.dual_conjunctive (levelLimit - 2) xs
  · exact evalWithin_negation_connective hreg (by decide) (by decide) connective?_or
      connective?_and ev.dual_disjunctive (levelLimit - 2) xs

end Evaluator

end RecordCalc
