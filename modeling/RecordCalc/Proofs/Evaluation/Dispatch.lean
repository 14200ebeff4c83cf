import RecordCalc.Proofs.Evaluation.Named
import RecordCalc.Proofs.Operator.Sessions

/-
  What becomes of the evaluated arguments of a call. In the legacy regime the rule of the operator
  is to get all of them; in the Codd regime it gets all of them too, in arithmetic as numbers or
  dates, unless missing data or a negation decides without the rule (`Handed`). Comparisons look at
  two arguments whatever their arity, and a negation in the Codd regime at one, so a registry can
  have operators whose arguments are dropped or wanted (`Neglects`); in every other call, and in no
  such call, the arguments are handed over (`handed_call_iff`).
-/

namespace RecordCalc.Evaluator

/-- What the outcome of a rule means in the regime: in that of Codd a division by zero has no
value. -/
def settled (ev : Evaluator) (outcome : Except Failure Value) : Except Failure Value :=
  match outcome with
  | .error f => if ev.isCodd && f.isKind .divisionByZero then .ok .null else outcome
  | .ok _ => outcome

/-- The rule is applied once, to some values, and its outcome is the outcome. -/
def onceOn (ev : Evaluator) (o : Operator) (vs : List Value) : Run Value :=
  ⟨ev.settled (Run.guarded o (o.rule vs)), [⟨o.id, vs⟩]⟩

/-- What the Codd regime decides without the rule: arithmetic on an operand that is no number and
no date, comparisons of missing values, and negations. -/
inductive Decides (ev : Evaluator) (o : Operator) : List Value → Value → Prop
  | arithmetic {a b : Value} : o.id ∈ arithmeticIds →
      ev.strictOperand a = .null ∨ ev.strictOperand b = .null → Decides ev o [a, b] .null
  | comparison {a b : Value} {rest : List Value} : o.category = .comparison →
      ev.isMissing a = true ∨ ev.isMissing b = true → Decides ev o (a :: b :: rest) .unknown
  | negation {a : Value} {rest : List Value} : o.id = "NOT" →
      Decides ev o (a :: rest) (ev.truth a).not.toValue

/-- All the arguments come to the rule, or the result is decided without it. -/
inductive Handed (ev : Evaluator) (o : Operator) (vs : List Value) : Run Value → Prop
  | applied : Handed ev o vs (ev.onceOn o vs)
  | converted {a b : Value} : ev.mode = .codd → o.id ∈ arithmeticIds → vs = [a, b] →
      (∀ v ∈ [ev.strictOperand a, ev.strictOperand b], v.isNumeric = true ∨ v.isDate = true) →
      Handed ev o vs (ev.onceOn o [ev.strictOperand a, ev.strictOperand b])
  | decided {v : Value} : ev.mode = .codd → Decides ev o vs v → Handed ev o vs (.done v)

/-- An argument is dropped or wanted: a comparison has fewer than two arguments, or more than it
looks at, or a negation in the Codd regime has none. -/
inductive Neglects (ev : Evaluator) (o : Operator) : List Value → Prop
  | tooFew {vs : List Value} : o.category = .comparison → vs.length < 2 → Neglects ev o vs
  | dropped {a b c : Value} {rest : List Value} : o.category = .comparison →
      ¬ (ev.mode = .codd ∧ (ev.isMissing a = true ∨ ev.isMissing b = true)) →
      Neglects ev o (a :: b :: c :: rest)
  | noOperand : ev.mode = .codd → o.id = "NOT" → o.category ≠ .comparison → Neglects ev o []

section
variable {ev : Evaluator} {o : Operator} {vs : List Value} {a b : Value}

theorem isCodd_iff : ev.isCodd = true ↔ ev.mode = .codd := beq_iff_eq

theorem apply_eq_onceOn (ev : Evaluator) (o : Operator) (vs : List Value) :
    ev.apply o vs = ev.onceOn o vs := by
  unfold apply onceOn settled Run.applyRule
  generalize Run.guarded o (o.rule vs) = outcome
  cases outcome with
  | ok v => rfl
  | error f =>
    dsimp only
    split <;> rfl

/-! ## Operands of arithmetic -/

/-- A converted operand is nothing, a number or a date. -/
theorem strictOperand_cases (ev : Evaluator) (v : Value) :
    ev.strictOperand v = .null ∨
      ((ev.strictOperand v).isNumeric = true ∨ (ev.strictOperand v).isDate = true) := by
  unfold strictOperand
  split
  · exact .inl rfl
  · split
    next hdate => exact .inr (.inr hdate)
    · cases v.toNumber? with
      | none => exact .inl rfl
      | some n => exact .inr (.inl rfl)

theorem arithmetic_of_null (hcodd : ev.mode = .codd)
    (h : ev.strictOperand a = .null ∨ ev.strictOperand b = .null) :
    ev.arithmetic o a b = .done .null := by
  rw [arithmetic, if_pos (isCodd_iff.2 hcodd)]
  split
  · rfl
  · rfl
  next hleft hright => exact absurd h (not_or.2 ⟨hleft, hright⟩)

theorem arithmetic_of_ne_null (hcodd : ev.mode = .codd)
    (h : ¬ (ev.strictOperand a = .null ∨ ev.strictOperand b = .null)) :
    ev.arithmetic o a b = ev.onceOn o [ev.strictOperand a, ev.strictOperand b] := by
  obtain ⟨ha, hb⟩ := not_or.1 h
  rw [arithmetic, if_pos (isCodd_iff.2 hcodd), ← apply_eq_onceOn]
  split
  next hnull => exact absurd hnull ha
  next hnull _ => exact absurd hnull hb
  · rfl

theorem handed_arithmetic (hid : o.id ∈ arithmeticIds) :
    Handed ev o [a, b] (ev.arithmetic o a b) := by
  by_cases hcodd : ev.mode = .codd
  · by_cases hnull : ev.strictOperand a = .null ∨ ev.strictOperand b = .null
    · rw [arithmetic_of_null hcodd hnull]
      exact .decided hcodd (.arithmetic hid hnull)
    · rw [arithmetic_of_ne_null hcodd hnull]
      obtain ⟨ha, hb⟩ := not_or.1 hnull
      refine .converted hcodd hid rfl fun v hv => ?_
      rcases List.mem_pair.1 hv with rfl | rfl
      · exact (ev.strictOperand_cases a).resolve_left ha
      · exact (ev.strictOperand_cases b).resolve_left hb
  · rw [arithmetic, if_neg (mt isCodd_iff.1 hcodd), apply_eq_onceOn]
    exact .applied

/-! ## Comparisons and negations -/

/-- The comparison is decided by a missing value. -/
theorem comparison_of_missing (hcodd : ev.mode = .codd)
    (h : ev.isMissing a = true ∨ ev.isMissing b = true) :
    ev.comparison o a b = .done .unknown := by
  rw [comparison, if_pos]
  rw [Bool.and_eq_true, Bool.or_eq_true]
  exact ⟨isCodd_iff.2 hcodd, h⟩

theorem comparison_of_not_missing
    (h : ¬ (ev.mode = .codd ∧ (ev.isMissing a = true ∨ ev.isMissing b = true))) :
    ev.comparison o a b = ev.onceOn o [a, b] := by
  rw [comparison, if_neg, apply_eq_onceOn]
  rw [Bool.and_eq_true, Bool.or_eq_true]
  exact fun hdecided => h ⟨isCodd_iff.1 hdecided.1, hdecided.2⟩

/-- A run that applies the rule to other values, in no arithmetic, does not hand over the
arguments. -/
theorem not_handed_onceOn {ws : List Value} (hne : ws ≠ vs) (hlength : vs.length ≠ 2) :
    ¬ Handed ev o vs (ev.onceOn o ws) := by
  intro h
  generalize hr : ev.onceOn o ws = r at h
  cases h with
  | applied => exact hne (by simpa [onceOn] using congrArg Run.uses hr)
  | converted hcodd hid hvs hops =>
    rw [hvs] at hlength
    exact hlength rfl
  | decided hcodd hv => simpa [onceOn, Run.done] using congrArg Run.uses hr

theorem not_handed_fail {e : Failure} : ¬ Handed ev o vs (.fail e) := by
  intro h
  generalize hr : (Run.fail e : Run Value) = r at h
  cases h with
  | applied => simpa [onceOn, Run.fail] using congrArg Run.uses hr
  | converted hcodd hid hvs hops => simpa [onceOn, Run.fail] using congrArg Run.uses hr
  | decided hcodd hv => cases hr

/-! ## Calls -/

theorem applyCall_of_arithmetic (hid : o.id ∈ arithmeticIds) :
    ev.applyCall o [a, b] = ev.arithmetic o a b := by
  unfold applyCall
  rw [List.contains_iff_mem.2 hid]

/-- A call that is no arithmetic with two operands. -/
theorem applyCall_of_other (ev : Evaluator) (o : Operator) (vs : List Value) :
    ¬ (o.id ∈ arithmeticIds ∧ vs.length = 2) → ev.applyCall o vs =
      if o.category = .comparison then
        match vs with
        | a :: b :: _ => ev.comparison o a b
        | _ => .fail (.fault (.missingArgument false))
      else if o.id = "NOT" && ev.isCodd then
        match vs with
        | a :: _ => .done (ev.truth a).not.toValue
        | [] => .fail (.fault (.missingArgument false))
      else ev.apply o vs := by
  intro h
  unfold applyCall
  split
  next a b hid => exact absurd ⟨List.contains_iff_mem.1 hid, rfl⟩ h
  · rfl

theorem not_neglects_pair : ¬ Neglects ev o [a, b] := by
  rintro (⟨-, hfew⟩ | -)
  simp at hfew

/-- A comparison looks at its first two arguments. -/
theorem handed_comparison_iff (hcategory : o.category = .comparison)
    (harith : ¬ (o.id ∈ arithmeticIds ∧ vs.length = 2)) :
    Handed ev o vs (ev.applyCall o vs) ↔ ¬ Neglects ev o vs := by
  rw [applyCall_of_other ev o vs harith, if_pos hcategory]
  match vs with
  | [] | [_] =>
    exact iff_of_false not_handed_fail (not_not.2 (.tooFew hcategory (by simp)))
  | a :: b :: rest =>
    dsimp only
    by_cases hmissing : ev.mode = .codd ∧ (ev.isMissing a = true ∨ ev.isMissing b = true)
    · rw [comparison_of_missing hmissing.1 hmissing.2]
      refine iff_of_true (.decided hmissing.1 (.comparison hcategory hmissing.2)) ?_
      rintro (⟨-, hfew⟩ | ⟨-, hnot⟩)
      · simp only [List.length_cons] at hfew
        omega
      · exact hnot hmissing
    · rw [comparison_of_not_missing hmissing]
      cases rest with
      | nil =>
        exact iff_of_true .applied not_neglects_pair
      | cons c rest =>
        exact iff_of_false (not_handed_onceOn (by simp) (by simp))
          (not_not.2 (.dropped hcategory hmissing))

/-- A negation in the Codd regime looks at its first argument. -/
theorem handed_negation_iff (hcodd : ev.mode = .codd) (hid : o.id = "NOT")
    (hcategory : o.category ≠ .comparison) :
    Handed ev o vs (ev.applyCall o vs) ↔ ¬ Neglects ev o vs := by
  have harith : ¬ (o.id ∈ arithmeticIds ∧ vs.length = 2) := by
    rw [hid]
    exact fun h => absurd h.1 (by decide)
  have hnegates : (decide (o.id = "NOT") && ev.isCodd) = true := by
    rw [hid, isCodd_iff.2 hcodd]
    rfl
  rw [applyCall_of_other ev o vs harith, if_neg hcategory, if_pos hnegates]
  match vs with
  | [] => exact iff_of_false not_handed_fail (not_not.2 (.noOperand hcodd hid hcategory))
  | a :: rest =>
    refine iff_of_true (.decided hcodd (.negation hid)) ?_
    rintro (⟨hcomparison, -⟩ | ⟨hcomparison, -⟩) <;> exact hcategory hcomparison

/-- The arguments of a call are handed over, unless one is dropped or wanted. -/
theorem handed_applyCall_iff : Handed ev o vs (ev.applyCall o vs) ↔ ¬ Neglects ev o vs := by
  by_cases harith : o.id ∈ arithmeticIds ∧ vs.length = 2
  · obtain ⟨hid, hlength⟩ := harith
    obtain ⟨a, b, rfl⟩ := List.length_eq_two.1 hlength
    rw [applyCall_of_arithmetic hid]
    exact iff_of_true (handed_arithmetic hid) not_neglects_pair
  by_cases hcategory : o.category = .comparison
  · exact handed_comparison_iff hcategory harith
  by_cases hnot : ev.mode = .codd ∧ o.id = "NOT"
  · exact handed_negation_iff hnot.1 hnot.2 hcategory
  have hplain : ¬ (decide (o.id = "NOT") && ev.isCodd) = true := by
    rw [Bool.and_eq_true, decide_eq_true_eq, isCodd_iff]
    exact fun h => hnot ⟨h.2, h.1⟩
  rw [applyCall_of_other ev o vs harith, if_neg hcategory, if_neg hplain, apply_eq_onceOn]
  refine iff_of_true .applied ?_
  rintro (⟨hcomparison, -⟩ | ⟨hcomparison, -⟩ | ⟨hcodd, hid, -⟩)
  · exact hcategory hcomparison
  · exact hcategory hcomparison
  · exact hnot ⟨hcodd, hid⟩

/-- The operands of an infix operator are handed over in every registry. -/
theorem handed_applyBinary {op : BinaryOp} (hid : op.operatorId? = some o.id)
    (hget : ev.registry.get o.id = .ok o) : Handed ev o [a, b] (ev.applyBinary op a b) := by
  rw [applyBinary_eq hid hget]
  exact handed_applyCall_iff.2 not_neglects_pair

/-! ## Calls of expressions -/

theorem eq_of_outcome {α : Type} {r : Run α} {x : α} (h : r.outcome = .ok x) :
    r = ⟨.ok x, r.uses⟩ := by
  cases r
  cases h
  rfl

/-- The evaluated arguments, and the rules that were applied for them. -/
theorem evalAll_of_outcomes {eval : Expr → Run Value} {args : List Expr}
    (h : List.Forall₂ (fun e v => (eval e).outcome = .ok v) args vs) :
    evalAll eval args = ⟨.ok vs, args.flatMap fun e => (eval e).uses⟩ := by
  induction h with
  | nil => rfl
  | @cons e v es vs he hes ih =>
    rw [evalAll, ih, eq_of_outcome he]
    simp [bind, Run.andThen, pure, Run.done]

section
variable {record : Record} {n : Nat} {name : String} {args : List Expr}

theorem evalWithin_call (ho : ev.registry.resolve? name = some o) (hlazy : o.isLazy = false)
    (hargs : o.accepts args.length = true)
    (hvs : List.Forall₂ (fun e v => (ev.evalWithin record n e).outcome = .ok v) args vs) :
    ev.evalWithin record (n + 1) (.call name args) =
      ⟨(ev.applyCall o vs).outcome,
        args.flatMap (fun e => (ev.evalWithin record n e).uses) ++ (ev.applyCall o vs).uses⟩ := by
  rw [evalWithin, evalStep, evalCall_eager ho hlazy, if_pos hargs, evalAll_of_outcomes hvs]
  rfl

/--
In a call of an operator that is not lazy, with a number of arguments that it accepts, all the
evaluated arguments come to the rule, once and in order, or the result is decided without it, if and
only if no argument is dropped or wanted.
-/
theorem handed_call_iff (ho : ev.registry.resolve? name = some o) (hlazy : o.isLazy = false)
    (hargs : o.accepts args.length = true)
    (hvs : List.Forall₂ (fun e v => (ev.evalWithin record n e).outcome = .ok v) args vs) :
    (∃ r, ev.evalWithin record (n + 1) (.call name args) =
        ⟨r.outcome, args.flatMap (fun e => (ev.evalWithin record n e).uses) ++ r.uses⟩ ∧
      Handed ev o vs r) ↔ ¬ Neglects ev o vs := by
  have hcall := evalWithin_call ho hlazy hargs hvs
  rw [← handed_applyCall_iff]
  constructor
  · rintro ⟨r, hr, hhanded⟩
    obtain ⟨houtcome, huses⟩ := Run.mk.inj (hcall.symm.trans hr)
    have hsame : (⟨r.outcome, r.uses⟩ : Run Value) = ev.applyCall o vs := by
      rw [← houtcome, ← List.append_cancel_left huses]
    exact hsame ▸ hhanded
  · exact fun hhanded => ⟨_, hcall, hhanded⟩

end

end

/-! ## An operator of three arguments -/

/-- An operator of three arguments that lists what its rule gets. -/
def between (category : Category) : Operator :=
  { id := "BETWEEN", displayName := "Between", category := category, inputs := none,
    output := .any, arity := .fixed 3, rule := fun args => .ok (.list args) }

theorem exists_between (category : Category) :
    ∃ r, Registry.ofList [between category] = .ok r ∧
      r.resolve? "BETWEEN" = some (between category) :=
  Registry.exists_ofList_singleton (Operator.mem_callNames.2 ⟨_, List.mem_cons_self, rfl⟩)

/-- In a category other than that of comparisons all three arguments come to the rule. -/
theorem handed_call_between :
    ∃ (r : Registry) (o : Operator) (vs : List Value),
      Registry.ofList [o] = .ok r ∧ r.resolve? "BETWEEN" = some o ∧ o.isLazy = false ∧
      o.accepts 3 = true ∧ vs = [.int 1, .int 2, .int 3] ∧
      ∃ run, (⟨r, .legacy, true⟩ : Evaluator).eval []
          (.call "BETWEEN" [.literal (.int 1), .literal (.int 2), .literal (.int 3)]) =
            ⟨run.outcome, run.uses⟩ ∧
        Handed ⟨r, .legacy, true⟩ o vs run := by
  obtain ⟨r, hr, ho⟩ := exists_between .text
  refine ⟨r, between .text, _, hr, ho, rfl, rfl, rfl, ?_⟩
  have hnone : ¬ Neglects ⟨r, .legacy, true⟩ (between .text) [.int 1, .int 2, .int 3] := by
    rintro (⟨⟨⟩, -⟩ | ⟨⟨⟩, -⟩)
  exact (handed_call_iff ho rfl rfl (.cons rfl (.cons rfl (.cons rfl .nil)))).2 hnone

/-- A comparison of three arguments drops the last one. -/
theorem not_handed_call_comparison :
    ∃ (r : Registry) (o : Operator),
      Registry.ofList [o] = .ok r ∧ r.resolve? "BETWEEN" = some o ∧ o.isLazy = false ∧
      o.accepts 3 = true ∧
      (⟨r, .legacy, true⟩ : Evaluator).eval []
          (.call "BETWEEN" [.literal (.int 1), .literal (.int 2), .literal (.int 3)]) =
        ⟨.ok (.list [.int 1, .int 2]), [⟨"BETWEEN", [.int 1, .int 2]⟩]⟩ := by
  obtain ⟨r, hr, ho⟩ := exists_between .comparison
  have hvs : List.Forall₂
      (fun e v => ((⟨r, .legacy, true⟩ : Evaluator).evalWithin [] 399 e).outcome = .ok v)
      [.literal (.int 1), .literal (.int 2), .literal (.int 3)] [.int 1, .int 2, .int 3] :=
    .cons rfl (.cons rfl (.cons rfl .nil))
  refine ⟨r, between .comparison, hr, ho, rfl, rfl, ?_⟩
  rw [eval, levelLimit, evalWithin_call ho rfl rfl hvs]
  rfl

end RecordCalc.Evaluator
