import RecordCalc.Proofs.Evaluation.Certainty
import RecordCalc.Proofs.Evaluation.Failures
import RecordCalc.Proofs.Evaluation.Reading
import RecordCalc.Proofs.Evaluation.Visits
import RecordCalc.Proofs.Operator.Operands
import RecordCalc.Proofs.Value.Conversion

/-
  The two regimes for missing data differ on missing data alone. The Codd regime converts operands
  before the rule and takes truth in three-valued logic, the legacy regime leaves both to the rules.
  On data that is there each operation of the legacy regime reproduces the answers of the Codd
  regime, and so does an evaluation that gets to no missing data (`eval_legacy_eq`).
-/

namespace RecordCalc

open Calendar (DateTime)

/-! ## Connectives -/

namespace Truth

theorem all_map_ofBool (bs : List Bool) : all (bs.map ofBool) = ofBool (bs.all id) := by
  induction bs with
  | nil => rfl
  | cons b bs ih =>
    have hcons : all ((b :: bs).map ofBool) = (ofBool b).and (all (bs.map ofBool)) := rfl
    rw [hcons, ih, List.all_cons]
    cases b <;> cases bs.all id <;> rfl

theorem any_map_ofBool (bs : List Bool) : any (bs.map ofBool) = ofBool (bs.any id) := by
  induction bs with
  | nil => rfl
  | cons b bs ih =>
    have hcons : any ((b :: bs).map ofBool) = (ofBool b).or (any (bs.map ofBool)) := rfl
    rw [hcons, ih, List.any_cons]
    cases b <;> cases bs.any id <;> rfl

end Truth

namespace Connective

/-- Two connectives do not differ on some values. -/
structure AgreeOn (P : Value → Prop) (c c' : Connective) : Prop where
  decides : ∀ v, P v → c'.decides v = c.decides v
  value : ∀ vs, (∀ v ∈ vs, P v) → c'.value vs = c.value vs

section
variable {P : Value → Prop} {truth : Value → Truth}

theorem AgreeOn.refl (P : Value → Prop) (c : Connective) : AgreeOn P c c :=
  ⟨fun _ _ => rfl, fun _ _ => rfl⟩

theorem map_truth (h : ∀ v, P v → truth v = .ofBool v.toBoolean) {vs : List Value}
    (hvs : ∀ v ∈ vs, P v) : vs.map truth = (vs.map (·.toBoolean)).map .ofBool := by
  rw [List.map_map]
  exact List.map_congr_left fun v hv => h v (hvs v hv)

/-- Where truth is that of two-valued logic, so is conjunction. -/
theorem AgreeOn.and (h : ∀ v, P v → truth v = .ofBool v.toBoolean) :
    AgreeOn P (.and3 truth) .and where
  decides v hv := by
    simp only [Connective.and, and3, h v hv]
    cases v.toBoolean <;> rfl
  value vs hvs := by
    simp only [Connective.and, and3, map_truth h hvs, Truth.all_map_ofBool, List.all_map]
    cases hall : vs.all (·.toBoolean) <;> simp [hall, Truth.ofBool, Truth.toValue]

/-- Where truth is that of two-valued logic, so is disjunction. -/
theorem AgreeOn.or (h : ∀ v, P v → truth v = .ofBool v.toBoolean) :
    AgreeOn P (.or3 truth) .or where
  decides v hv := by
    simp only [Connective.or, or3, h v hv]
    cases v.toBoolean <;> rfl
  value vs hvs := by
    simp only [Connective.or, or3, map_truth h hvs, Truth.any_map_ofBool, List.any_map]
    cases hany : vs.any (·.toBoolean) <;> simp [hany, Truth.ofBool, Truth.toValue]

end

end Connective

namespace Evaluator

/-- The evaluator of the built-in operators in the legacy regime. -/
def legacy (now : DateTime) (emptyText : Bool) : Evaluator := ⟨.builtIn now, .legacy, emptyText⟩

@[simp] theorem isCodd_codd (now : DateTime) (emptyText : Bool) :
    (codd now emptyText).isCodd = true := rfl

@[simp] theorem isCodd_legacy (now : DateTime) (emptyText : Bool) :
    (legacy now emptyText).isCodd = false := rfl

@[simp] theorem registry_codd (now : DateTime) (emptyText : Bool) :
    (codd now emptyText).registry = .builtIn now := rfl

@[simp] theorem registry_legacy (now : DateTime) (emptyText : Bool) :
    (legacy now emptyText).registry = .builtIn now := rfl

section
variable {ev : Evaluator} {v : Value}

/-- An operand that has a number or is a date is not told apart from its conversion. -/
theorem sameOperand_strictOperand (h : ev.strictOperand v ≠ .null) :
    Arithmetic.SameOperand (ev.strictOperand v) v := by
  unfold strictOperand at h ⊢
  split at h
  · exact absurd rfl h
  next hmissing =>
  rw [if_neg hmissing]
  cases hdate : v.isDate with
  | true => exact ⟨rfl, rfl, fun _ => rfl⟩
  | false =>
    simp only [hdate, Bool.false_eq_true, if_false] at h ⊢
    cases hnumber : v.toNumber? with
    | none =>
      rw [hnumber] at h
      exact absurd rfl h
    | some n =>
      refine ⟨?_, Value.toNumber_number hnumber, fun hd => nomatch hd⟩
      cases v <;> first | rfl | cases hdate

/-! ## Reproduced answers -/

/-- The second run comes to the answer of the first, if the first comes to one that is not
missing. -/
def Reproduces (ev : Evaluator) (run run' : Run Value) : Prop :=
  ∀ v, run.outcome = .ok v → ev.isMissing v = false → run'.outcome = .ok v

theorem Reproduces.of_outcome_eq {run run' : Run Value} (h : run'.outcome = run.outcome) :
    ev.Reproduces run run' := by
  intro v hv _
  rw [h, hv]

theorem Reproduces.refl (run : Run Value) : ev.Reproduces run run := .of_outcome_eq rfl

/-- A run that goes on as reproduces what the other goes on as. -/
theorem Reproduces.bind {α : Type} {run : Run α} {f g : α → Run Value}
    (h : ∀ a, run.outcome = .ok a → ev.Reproduces (f a) (g a)) :
    ev.Reproduces (run >>= f) (run >>= g) := by
  intro v hv hpresent
  obtain ⟨a, ha, hv⟩ := Run.bind_outcome_ok hv
  rw [Run.bind_outcome_of_ok ha]
  exact h a ha v hv hpresent

/-- A run that comes to missing data is reproduced by every run. -/
theorem Reproduces.of_missing (hv : ev.isMissing v = true) (run : Run Value) :
    ev.Reproduces (.done v) run := by
  intro w hw hpresent
  cases hw
  rw [hv] at hpresent
  cases hpresent

end

section
variable {now : DateTime} {emptyText : Bool} {o : Operator} {a b v : Value}

theorem reproduces_apply (args : List Value) :
    (codd now emptyText).Reproduces ((codd now emptyText).apply o args)
      ((legacy now emptyText).apply o args) := by
  intro w hw hpresent
  simp only [apply, isCodd_codd, isCodd_legacy, Bool.true_and, Bool.false_and, Bool.false_eq_true,
    if_false] at hw ⊢
  split at hw
  · split at hw
    · cases hw
      cases hpresent
    · exact hw
  · exact hw

/-- Conversion of the operands before the rule does not change what the rule comes to. -/
theorem reproduces_arithmetic (ho : o ∈ builtInOperators now) (hid : o.id ∈ arithmeticIds) :
    (codd now emptyText).Reproduces ((codd now emptyText).arithmetic o a b)
      ((legacy now emptyText).arithmetic o a b) := by
  simp only [arithmetic, isCodd_codd, isCodd_legacy, if_true, Bool.false_eq_true, if_false]
  split
  · exact .of_missing rfl _
  · exact .of_missing rfl _
  next ha hb =>
  have hrule := Arithmetic.rule_congr (Registry.mem_arithmetic ho hid)
    (sameOperand_strictOperand ha) (sameOperand_strictOperand hb)
  intro w hw hpresent
  rw [← apply_congr hrule]
  exact reproduces_apply _ w hw hpresent

theorem reproduces_comparison :
    (codd now emptyText).Reproduces ((codd now emptyText).comparison o a b)
      ((legacy now emptyText).comparison o a b) := by
  simp only [comparison, isCodd_codd, isCodd_legacy, Bool.true_and, Bool.false_and]
  split
  · exact .of_missing rfl _
  · exact reproduces_apply _

theorem reproduces_applyBinary (op : BinaryOp) :
    (codd now emptyText).Reproduces ((codd now emptyText).applyBinary op a b)
      ((legacy now emptyText).applyBinary op a b) := by
  unfold applyBinary
  cases hid : op.operatorId? with
  | none => exact .refl _
  | some id =>
    simp only [registry_codd, registry_legacy]
    cases hget : (Registry.builtIn now).get id with
    | error f => exact .refl _
    | ok o =>
      obtain ⟨ho, rfl⟩ := Registry.mem_of_get hget
      simp only [Run.ofExcept_ok_bind]
      split
      · next harith => exact reproduces_arithmetic ho (by simpa using harith)
      · split
        · exact reproduces_comparison
        · exact reproduces_apply _

/-! ## Truth -/

/-- The truth of data that is there is that of two-valued logic. -/
theorem truth_of_present {ev : Evaluator} (hv : ev.isMissing v = false) :
    ev.truth v = .ofBool v.toBoolean := by
  unfold isMissing at hv
  rw [truth, Value.truth, hv]
  rfl

theorem holds_legacy (hv : (codd now emptyText).isMissing v = false) :
    (legacy now emptyText).holds v = (codd now emptyText).holds v := by
  simp only [holds, isCodd_codd, isCodd_legacy, if_true, Bool.false_eq_true, if_false,
    truth_of_present hv]
  cases v.toBoolean <;> rfl

theorem apply_not {ev : Evaluator} (hrule : o.rule = Rule.unary Logic.not) :
    (ev.apply o [v]).outcome = .ok (.bool !v.toBoolean) :=
  apply_outcome_ok (by rw [hrule]; rfl)

/-- The negation of missing data is missing. -/
theorem reproduces_not {run : Run Value} (hrun : run.outcome = .ok (.bool !v.toBoolean)) :
    (codd now emptyText).Reproduces (.done ((codd now emptyText).truth v).not.toValue) run := by
  cases hv : (codd now emptyText).isMissing v with
  | true =>
    rw [truth_eq_unknown_iff.2 hv]
    exact .of_missing rfl _
  | false =>
    refine .of_outcome_eq ?_
    rw [hrun, truth_of_present hv]
    cases v.toBoolean <;> rfl

theorem reproduces_applyUnary (op : UnaryOp) (hplus : op = .plus → v.isDate = false) :
    (codd now emptyText).Reproduces ((codd now emptyText).applyUnary op v)
      ((legacy now emptyText).applyUnary op v) := by
  cases op with
  | negate =>
    obtain ⟨o, hget, hrule⟩ := Registry.get_negate now
    simp only [applyUnary, isCodd_codd, isCodd_legacy, if_true, Bool.false_eq_true, if_false,
      registry_codd, registry_legacy, hget, Run.ofExcept_ok_bind]
    split
    · exact .of_missing rfl _
    next hv =>
    have hnegate : o.rule [(codd now emptyText).strictOperand v] = o.rule [v] := by
      rw [hrule]
      exact congrArg Rule.lift (Arithmetic.negate_congr (sameOperand_strictOperand hv))
    intro w hw hpresent
    rw [← apply_congr hnegate]
    exact reproduces_apply _ w hw hpresent
  | plus =>
    simp only [applyUnary, isCodd_codd, isCodd_legacy, if_true, Bool.false_eq_true, if_false,
      strictOperand]
    split
    · exact .of_missing rfl _
    rw [hplus rfl]
    cases hnumber : v.toNumber? with
    | none => exact .of_missing rfl _
    | some n =>
      rw [Value.toNumber, hnumber]
      exact .refl _
  | not =>
    obtain ⟨o, hget, hrule⟩ := Registry.get_not now
    simp only [applyUnary, isCodd_codd, isCodd_legacy, if_true, Bool.false_eq_true, if_false,
      registry_legacy, hget, Run.ofExcept_ok_bind]
    exact reproduces_not (apply_not hrule)
  | other symbol => exact .refl _

/-! ## Calls -/

/-- A call of the negation has one argument. -/
theorem exists_arg_not (ho : o ∈ builtInOperators now) (hid : o.id = "NOT") {args : List Value}
    (hargs : o.accepts args.length = true) :
    o.rule = Rule.unary Logic.not ∧ ∃ v, args = [v] := by
  obtain ⟨o', hget, hrule⟩ := Registry.get_not now
  rw [← hid, Registry.get_builtIn ho] at hget
  obtain ⟨harity, hmin⟩ := Registry.arity_leading ho (.inr hid)
  obtain ⟨hlow, hhigh⟩ := Operator.length_of_accepts (m := 1) (n := 1) harity hmin hargs
  exact ⟨Except.ok.inj hget ▸ hrule, List.length_eq_one_iff.1 (Nat.le_antisymm hhigh hlow)⟩

theorem reproduces_applyCall (ho : o ∈ builtInOperators now) {args : List Value}
    (hargs : o.accepts args.length = true) :
    (codd now emptyText).Reproduces ((codd now emptyText).applyCall o args)
      ((legacy now emptyText).applyCall o args) := by
  unfold applyCall
  split
  · next harith => exact reproduces_arithmetic ho (by simpa using harith)
  · split
    · split
      · exact reproduces_comparison
      · exact .refl _
    · simp only [isCodd_codd, isCodd_legacy, Bool.and_true, Bool.and_false, Bool.false_eq_true,
        if_false]
      split
      · next hid =>
        obtain ⟨hrule, v, rfl⟩ := exists_arg_not ho (by simpa using hid) hargs
        exact reproduces_not (apply_not hrule)
      · exact reproduces_apply _

/-- The Codd regime takes a connective in three-valued logic where the legacy regime takes it in
two-valued logic; on data that is there they agree. -/
theorem connective?_legacy (now : DateTime) (emptyText : Bool) (o : Operator) :
    Option.Rel (Connective.AgreeOn fun v => (codd now emptyText).isMissing v = false)
      ((codd now emptyText).connective? o) ((legacy now emptyText).connective? o) := by
  have htruth : ∀ v, (codd now emptyText).isMissing v = false →
      (codd now emptyText).truth v = .ofBool v.toBoolean := fun v hv => truth_of_present hv
  simp only [connective?, isCodd_codd, isCodd_legacy, if_true, Bool.false_eq_true, if_false]
  split
  · exact .none
  split
  · exact .some (.and htruth)
  split
  · exact .some (.or htruth)
  split
  · exact .some (.refl _ _)
  split
  · exact .some (.refl _ _)
  · exact .none

theorem decides_legacy (o : Operator) (hv : (codd now emptyText).isMissing v = false) :
    (legacy now emptyText).decides o v = (codd now emptyText).decides o v := by
  have hrel := connective?_legacy now emptyText o
  unfold decides
  generalize (codd now emptyText).connective? o = c, (legacy now emptyText).connective? o = c'
    at hrel ⊢
  cases hrel with
  | none => rfl
  | some h => exact h.decides v hv

theorem reproduces_conclude (ho : o ∈ builtInOperators now) {vs : List Value}
    (hvs : ∀ v ∈ vs, (codd now emptyText).isMissing v = false)
    (hcount : (codd now emptyText).connective? o = none → o.accepts vs.length = true) :
    (codd now emptyText).Reproduces ((codd now emptyText).conclude o vs)
      ((legacy now emptyText).conclude o vs) := by
  have hrel := connective?_legacy now emptyText o
  unfold conclude
  generalize (codd now emptyText).connective? o = c, (legacy now emptyText).connective? o = c'
    at hrel hcount ⊢
  cases hrel with
  | none => exact reproduces_applyCall ho (hcount rfl)
  | some h =>
    exact .of_outcome_eq (congrArg Except.ok (h.value vs hvs))

/-! ## Expressions -/

variable {eval : Expr → Run Value} {r : Record} {e : Expr} {args : List Expr}

theorem chooseBranch_legacy
    (hpresent : ∀ p ∈ (codd now emptyText).visitedBranch eval args,
      ∃ v, (eval p).outcome = .ok v ∧ (codd now emptyText).isMissing v = false) :
    (legacy now emptyText).visitedBranch eval args = (codd now emptyText).visitedBranch eval args ∧
      ((legacy now emptyText).chooseBranch eval args).outcome =
        ((codd now emptyText).chooseBranch eval args).outcome := by
  match args with
  | [] => exact ⟨rfl, rfl⟩
  | condition :: branches =>
    obtain ⟨v, hv, hm⟩ := hpresent condition List.mem_cons_self
    constructor
    · simp only [visitedBranch, hv, holds_legacy hm]
    · refine Run.bind_outcome_congr rfl fun v' hv' => ?_
      cases hv.symm.trans hv'
      rw [holds_legacy hm]

theorem upTo_legacy
    (hpresent : ∀ p ∈ visitedUpTo eval ((codd now emptyText).decides o) args,
      ∃ v, (eval p).outcome = .ok v ∧ (codd now emptyText).isMissing v = false) :
    visitedUpTo eval ((legacy now emptyText).decides o) args =
        visitedUpTo eval ((codd now emptyText).decides o) args ∧
      (valuesUpTo eval ((legacy now emptyText).decides o) args).outcome =
        (valuesUpTo eval ((codd now emptyText).decides o) args).outcome := by
  refine upTo_congr_decides fun p hp v hv => ?_
  obtain ⟨v', hv', hm⟩ := hpresent p hp
  cases hv.symm.trans hv'
  exact decides_legacy o hm

theorem reproduces_upTo (ho : o ∈ builtInOperators now) (hargs : o.accepts args.length = true)
    (hpresent : ∀ p ∈ visitedUpTo eval ((codd now emptyText).decides o) args,
      ∃ v, (eval p).outcome = .ok v ∧ (codd now emptyText).isMissing v = false) :
    (codd now emptyText).Reproduces
      (valuesUpTo eval ((codd now emptyText).decides o) args >>= (codd now emptyText).conclude o)
      (valuesUpTo eval ((legacy now emptyText).decides o) args >>=
        (legacy now emptyText).conclude o) := by
  intro w hw hm
  obtain ⟨vs, hvs, hw⟩ := Run.bind_outcome_ok hw
  rw [Run.bind_outcome_of_ok ((upTo_legacy hpresent).2.trans hvs)]
  refine reproduces_conclude ho (fun v hv => ?_) (fun hc => ?_) w hw hm
  · obtain ⟨p, hp, hpv⟩ := exists_visited_of_mem hvs hv
    obtain ⟨v', hv', hm'⟩ := hpresent p hp
    cases hpv.symm.trans hv'
    exact hm'
  · rwa [length_of_valuesUpTo (fun v => by simp only [decides, hc]) hvs]

/-- On data that is there, a step of evaluation visits the same parts in both regimes, and in the
legacy regime it reproduces the answer of the Codd regime. -/
theorem evalStep_legacy
    (hpresent : ∀ p ∈ (codd now emptyText).visited eval e,
      ∃ v, (eval p).outcome = .ok v ∧ (codd now emptyText).isMissing v = false)
    (hplus : ∀ q, e = .unary .plus q → ∀ v, (eval q).outcome = .ok v → v.isDate = false) :
    (legacy now emptyText).visited eval e = (codd now emptyText).visited eval e ∧
      (codd now emptyText).Reproduces ((codd now emptyText).evalStep r eval e)
        ((legacy now emptyText).evalStep r eval e) := by
  cases e with
  | literal v | field name | bare v => exact ⟨rfl, .refl _⟩
  | unary op e =>
    refine ⟨rfl, .bind fun v hv => reproduces_applyUnary op ?_⟩
    rintro rfl
    exact hplus e rfl v hv
  | binary op left right =>
    exact ⟨rfl, .bind fun a _ => .bind fun b _ => reproduces_applyBinary op⟩
  | call name args =>
    cases ho : (codd now emptyText).registry.resolve? name with
    | none =>
      have ho' : (legacy now emptyText).registry.resolve? name = none := ho
      rw [visited_call_unknown ho, visited_call_unknown ho', evalStep, evalStep,
        evalCall_unknown ho, evalCall_unknown ho']
      exact ⟨rfl, .refl _⟩
    | some o =>
      have ho' : (legacy now emptyText).registry.resolve? name = some o := ho
      cases hargs : o.accepts args.length with
      | false =>
        rw [visited_call_arity ho hargs, visited_call_arity ho' hargs, evalStep, evalStep,
          evalCall_arity ho hargs, evalCall_arity ho' hargs]
        exact ⟨rfl, .refl _⟩
      | true =>
        rw [visited_call ho hargs] at hpresent ⊢
        rw [visited_call ho' hargs, evalStep, evalStep, evalCall_eq ho hargs, evalCall_eq ho' hargs]
        split
        · next hcond =>
          rw [if_pos hcond] at hpresent
          obtain ⟨hvisited, houtcome⟩ := chooseBranch_legacy hpresent
          exact ⟨hvisited, .of_outcome_eq houtcome⟩
        · next hcond =>
          rw [if_neg hcond] at hpresent
          have hmem := Registry.mem_of_resolve? ho
          exact ⟨(upTo_legacy hpresent).1, reproduces_upTo hmem hargs hpresent⟩

/-- By induction on the levels: each part that a step visits is itself an evaluation that gets to
no missing data. -/
theorem evalWithin_legacy {n : Nat} {e : Expr}
    (hpresent : ∀ visit ∈ (codd now emptyText).visits r n e,
      ∃ v, visit.outcome = .ok v ∧ (codd now emptyText).isMissing v = false)
    (hplus : ∀ visit ∈ (codd now emptyText).visits r n e, ∀ q, visit.expr = .unary .plus q →
      ∀ v, ⟨q, .ok v⟩ ∈ (codd now emptyText).visits r n e → v.isDate = false) :
    ((legacy now emptyText).evalWithin r n e).outcome =
      ((codd now emptyText).evalWithin r n e).outcome := by
  induction n generalizing e with
  | zero => rfl
  | succ n ih =>
    obtain ⟨v, hv, hm⟩ := hpresent _ visits_self
    have hparts : ∀ p ∈ (codd now emptyText).visited ((codd now emptyText).evalWithin r n) e,
        ((legacy now emptyText).evalWithin r n p).outcome =
          ((codd now emptyText).evalWithin r n p).outcome := fun p hp =>
      ih (fun visit hvisit => hpresent visit (visits_part hp hvisit))
        (fun visit hvisit q hq v hqv =>
          hplus visit (visits_part hp hvisit) q hq v (visits_part hp hqv))
    have hstep := evalStep_legacy
      (fun p hp => hpresent _ (visits_part hp visits_self)) (r := r)
      (fun q hq v hqv => by
        subst hq
        refine hplus _ visits_self q rfl v ?_
        rw [← hqv]
        exact visits_part List.mem_cons_self visits_self)
    have hlegacy := hstep.2 v hv hm
    refine Eq.trans ?_ (hlegacy.trans hv.symm)
    refine (evalStep_outcome_congr fun p hp => ?_).symm
    rw [hstep.1] at hp
    exact (hparts p hp).symm

end

/-- The two regimes differ on missing data alone. If all subexpressions that the evaluation in the
Codd regime gets to come to data that is there, and no plus sign is before a date, then the
expression comes to the same value in the legacy regime, also at another moment, as it does not ask
for the present. -/
theorem eval_legacy_eq {now now' : DateTime} {emptyText : Bool} {r : Record} {e : Expr}
    (he : e.IsTimeless)
    (hpresent : ∀ visit ∈ (codd now emptyText).visits r levelLimit e,
      ∃ v, visit.outcome = .ok v ∧ (codd now emptyText).isMissing v = false)
    (hplus : ∀ visit ∈ (codd now emptyText).visits r levelLimit e,
      ∀ q, visit.expr = .unary .plus q →
        ∀ v, ⟨q, .ok v⟩ ∈ (codd now emptyText).visits r levelLimit e → v.isDate = false) :
    ((legacy now' emptyText).eval r e).outcome = ((codd now emptyText).eval r e).outcome := by
  have hmoment : (legacy now' emptyText).eval r e = (legacy now emptyText).eval r e :=
    eval_eq_of_agree (.builtIn now' now .legacy emptyText) he fun _ _ => rfl
  rw [hmoment]
  exact evalWithin_legacy hpresent hplus

/-- The branch that is not chosen is missing. -/
theorem eval_legacy_eq_paid :
    let e : Expr := .call "IF" [.field "paid", .unary .plus (.field "amount"), .field "due"]
    let r : Record := [("paid", .bool true), ("amount", .text "12")]
    ((legacy Registry.epoch true).eval r e).outcome =
      ((codd Registry.epoch true).eval r e).outcome := by
  intro e r
  have hname : Text.upper "IF" = "IF" := Text.upper_of_isBeforeSmall (by decide)
  have ho : (codd Registry.epoch true).registry.resolve? "IF" = some Logic.connectives[4] :=
    Registry.resolve?_connective (List.getElem_mem _) hname
  have hcond : Logic.connectives[4].isConditional = true := rfl
  have he : e.IsTimeless := by
    intro name hmem
    obtain rfl : name = "IF" := List.mem_singleton.1 hmem
    rw [hname]
    decide
  have hvisits : (codd Registry.epoch true).visits r levelLimit e =
      [⟨e, .ok (.int 12)⟩, ⟨.field "paid", .ok (.bool true)⟩,
        ⟨.unary .plus (.field "amount"), .ok (.int 12)⟩, ⟨.field "amount", .ok (.text "12")⟩] := by
    obtain ⟨n, hn⟩ : ∃ n, levelLimit = n + 3 := ⟨397, rfl⟩
    rw [hn, visits, evalWithin, evalStep, evalCall_eq ho rfl, visited_call ho rfl, if_pos hcond,
      if_pos hcond]
    rfl
  refine eval_legacy_eq he ?_ ?_
  · rw [hvisits]
    simp only [List.forall_mem_cons, List.not_mem_nil, false_implies, implies_true, and_true]
    exact ⟨⟨_, rfl, rfl⟩, ⟨_, rfl, rfl⟩, ⟨_, rfl, rfl⟩, ⟨_, rfl, rfl⟩⟩
  · intro _ _ q _ v hv
    rw [hvisits] at hv
    simp only [List.mem_cons, Visit.mk.injEq, Except.ok.injEq, List.not_mem_nil, or_false] at hv
    rcases hv with ⟨-, rfl⟩ | ⟨-, rfl⟩ | ⟨-, rfl⟩ | ⟨-, rfl⟩ <;> rfl

end Evaluator

end RecordCalc
