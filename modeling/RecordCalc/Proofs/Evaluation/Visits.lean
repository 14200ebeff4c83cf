import RecordCalc.Proofs.Evaluation.Arguments
import RecordCalc.Proofs.Formula.Parts

/-
  Which subexpressions an evaluation evaluates. `visited` are the parts of an expression that one
  step evaluates, from left to right: a step depends on them alone (`evalStep_outcome_congr`), and
  ends in a value only if they do (`ok_of_mem_visited`). `visits` are all the subexpressions that an
  evaluation gets to, each with what it comes to.
-/

namespace RecordCalc.Evaluator

/-! ## Visited parts -/

/-- The arguments that are evaluated when they are up to the first that decides. -/
def visitedUpTo (eval : Expr → Run Value) (decides : Value → Bool) : List Expr → List Expr
  | [] => []
  | e :: es =>
    e :: match (eval e).outcome with
      | .ok v => if decides v then [] else visitedUpTo eval decides es
      | .error _ => []

/-- The arguments of a conditional that are evaluated: the condition and the branch it chooses. -/
def visitedBranch (ev : Evaluator) (eval : Expr → Run Value) : List Expr → List Expr
  | [] => []
  | condition :: branches =>
    condition :: match (eval condition).outcome with
      | .ok v => ((if ev.holds v then branches else branches.tail).head?).toList
      | .error _ => []

/-- The parts of an expression that are evaluated. -/
def visited (ev : Evaluator) (eval : Expr → Run Value) : Expr → List Expr
  | .literal _ | .field _ | .bare _ => []
  | .unary _ e => [e]
  | .binary _ l r => visitedUpTo eval (fun _ => false) [l, r]
  | .call name args =>
    match ev.registry.resolve? name with
    | none => []
    | some o =>
      if !o.accepts args.length then []
      else if o.isConditional then ev.visitedBranch eval args
      else visitedUpTo eval (ev.decides o) args

section
variable {eval eval' : Expr → Run Value} {decides : Value → Bool} {es : List Expr}

theorem visitedUpTo_cons_ok {e : Expr} {v : Value} (h : (eval e).outcome = .ok v) :
    visitedUpTo eval decides (e :: es) =
      e :: if decides v then [] else visitedUpTo eval decides es := by
  rw [visitedUpTo, h]

theorem valuesUpTo_outcome_congr
    (h : ∀ e ∈ visitedUpTo eval decides es, (eval e).outcome = (eval' e).outcome) :
    (valuesUpTo eval decides es).outcome = (valuesUpTo eval' decides es).outcome := by
  induction es with
  | nil => rfl
  | cons e es ih =>
    refine Run.bind_outcome_congr (h e List.mem_cons_self) fun v hv => ?_
    rw [visitedUpTo_cons_ok hv] at h
    split
    · rfl
    · next hdecides =>
      rw [if_neg hdecides] at h
      have hes := ih fun e' he' => h e' (List.mem_cons_of_mem _ he')
      exact Run.bind_outcome_congr hes fun vs _ => rfl

/-- What decides matters for the values of the visited arguments alone. -/
theorem upTo_congr_decides {decides' : Value → Bool}
    (h : ∀ e ∈ visitedUpTo eval decides es, ∀ v, (eval e).outcome = .ok v →
      decides' v = decides v) :
    visitedUpTo eval decides' es = visitedUpTo eval decides es ∧
      (valuesUpTo eval decides' es).outcome = (valuesUpTo eval decides es).outcome := by
  induction es with
  | nil => exact ⟨rfl, rfl⟩
  | cons e es ih =>
    cases he : (eval e).outcome with
    | error f =>
      rw [valuesUpTo, valuesUpTo, Run.bind_outcome_of_error he, Run.bind_outcome_of_error he]
      exact ⟨by simp only [visitedUpTo, he], rfl⟩
    | ok v =>
      have hv := h e List.mem_cons_self v he
      rw [visitedUpTo_cons_ok he] at h ⊢
      rw [visitedUpTo_cons_ok he, valuesUpTo, valuesUpTo, Run.bind_outcome_of_ok he,
        Run.bind_outcome_of_ok he, hv]
      split
      · exact ⟨rfl, rfl⟩
      · next hdecides =>
        rw [if_neg hdecides] at h
        obtain ⟨hvisited, hvalues⟩ := ih fun e' he' => h e' (List.mem_cons_of_mem _ he')
        exact ⟨congrArg _ hvisited, Run.bind_outcome_congr hvalues fun vs _ => rfl⟩

/-- The values of arguments are those that the visited ones come to, in order. -/
theorem map_outcome_visitedUpTo {vs : List Value}
    (h : (valuesUpTo eval decides es).outcome = .ok vs) :
    (visitedUpTo eval decides es).map (fun e => (eval e).outcome) = vs.map .ok := by
  induction es generalizing vs with
  | nil =>
    cases h
    rfl
  | cons e es ih =>
    obtain ⟨v, hv, h⟩ := Run.bind_outcome_ok h
    rw [visitedUpTo_cons_ok hv]
    split at h
    · next hdecides =>
      cases h
      simp [hdecides, hv]
    · next hdecides =>
      obtain ⟨vs, hvs, h⟩ := Run.bind_outcome_ok h
      cases h
      simp [hdecides, hv, ih hvs]

theorem ok_of_mem_visitedUpTo {vs : List Value} {e : Expr}
    (h : (valuesUpTo eval decides es).outcome = .ok vs) (he : e ∈ visitedUpTo eval decides es) :
    ∃ v, (eval e).outcome = .ok v := by
  have hmem : (eval e).outcome ∈ vs.map .ok := by
    rw [← map_outcome_visitedUpTo h]
    exact List.mem_map_of_mem he
  obtain ⟨v, -, hv⟩ := List.mem_map.1 hmem
  exact ⟨v, hv.symm⟩

/-- The evaluation of arguments fails with what a visited one fails with. -/
theorem error_of_mem_visitedUpTo {f : Failure} {e : Expr} (he : e ∈ visitedUpTo eval decides es)
    (hf : (eval e).outcome = .error f) : (valuesUpTo eval decides es).outcome = .error f := by
  induction es with
  | nil => cases he
  | cons e' es ih =>
    cases he' : (eval e').outcome with
    | error f' =>
      simp only [visitedUpTo, he', List.mem_singleton] at he
      rw [he, he'] at hf
      cases hf
      exact Run.bind_outcome_of_error he' _
    | ok v =>
      rw [visitedUpTo_cons_ok he'] at he
      rcases List.mem_cons.1 he with rfl | he
      · rw [he'] at hf
        cases hf
      · rw [valuesUpTo, Run.bind_outcome_of_ok he']
        split at he
        · cases he
        · next hdecides =>
          rw [if_neg hdecides]
          exact Run.bind_outcome_of_error (ih he) _

theorem mem_of_mem_visitedUpTo {e : Expr} (he : e ∈ visitedUpTo eval decides es) : e ∈ es := by
  induction es with
  | nil => cases he
  | cons e' es ih =>
    rw [visitedUpTo] at he
    rcases List.mem_cons.1 he with rfl | he
    · exact List.mem_cons_self
    · split at he
      · split at he
        · cases he
        · exact List.mem_cons_of_mem _ (ih he)
      · cases he

theorem exists_visited_of_mem {vs : List Value} {v : Value}
    (h : (valuesUpTo eval decides es).outcome = .ok vs) (hv : v ∈ vs) :
    ∃ e ∈ visitedUpTo eval decides es, (eval e).outcome = .ok v := by
  have hmem : (Except.ok v : Except Failure Value) ∈ vs.map .ok := List.mem_map_of_mem hv
  rw [← map_outcome_visitedUpTo h] at hmem
  exact List.mem_map.1 hmem

/-- Arguments that none of them decides are all evaluated. -/
theorem length_of_valuesUpTo {vs : List Value} (hnever : ∀ v, decides v = false)
    (h : (valuesUpTo eval decides es).outcome = .ok vs) : vs.length = es.length := by
  induction es generalizing vs with
  | nil =>
    cases h
    rfl
  | cons e es ih =>
    obtain ⟨v, -, h⟩ := Run.bind_outcome_ok h
    rw [hnever, if_neg Bool.false_ne_true] at h
    obtain ⟨vs, hvs, h⟩ := Run.bind_outcome_ok h
    cases h
    rw [List.length_cons, List.length_cons, ih hvs]

end

section
variable {ev : Evaluator} {r : Record} {eval eval' : Expr → Run Value} {e : Expr}
  {args : List Expr}

theorem chooseBranch_outcome_congr
    (h : ∀ e ∈ ev.visitedBranch eval args, (eval e).outcome = (eval' e).outcome) :
    (ev.chooseBranch eval args).outcome = (ev.chooseBranch eval' args).outcome := by
  match args with
  | [] => rfl
  | condition :: branches =>
    refine Run.bind_outcome_congr (h condition List.mem_cons_self) fun v hv => ?_
    simp only [visitedBranch, hv, List.forall_mem_cons, Option.mem_toList] at h
    split
    · next hholds =>
      match branches with
      | [] => rfl
      | yes :: _ => exact h.2 yes (by simp [hholds])
    · next hholds =>
      match branches with
      | [] | [_] => rfl
      | _ :: no :: _ => exact h.2 no (by simp [hholds])

theorem visited_call_unknown {name : String} (ho : ev.registry.resolve? name = none) :
    ev.visited eval (.call name args) = [] := by
  simp [visited, ho]

theorem visited_call_arity {name : String} {o : Operator}
    (ho : ev.registry.resolve? name = some o) (hargs : o.accepts args.length = false) :
    ev.visited eval (.call name args) = [] := by
  simp [visited, ho, hargs]

theorem visited_call {name : String} {o : Operator} (ho : ev.registry.resolve? name = some o)
    (hargs : o.accepts args.length = true) :
    ev.visited eval (.call name args) =
      if o.isConditional then ev.visitedBranch eval args
      else visitedUpTo eval (ev.decides o) args := by
  simp [visited, ho, hargs]

/-- A step of evaluation depends on what the visited parts come to alone. -/
theorem evalStep_outcome_congr
    (h : ∀ p ∈ ev.visited eval e, (eval p).outcome = (eval' p).outcome) :
    (ev.evalStep r eval e).outcome = (ev.evalStep r eval' e).outcome := by
  cases e with
  | literal v | field name | bare v => rfl
  | unary op e => exact Run.bind_outcome_congr (h e List.mem_cons_self) fun v _ => rfl
  | binary op l r =>
    refine Run.bind_outcome_congr (h l List.mem_cons_self) fun a ha => ?_
    have hr : r ∈ ev.visited eval (.binary op l r) := by simp [visited, visitedUpTo, ha]
    exact Run.bind_outcome_congr (h r hr) fun b _ => rfl
  | call name args =>
    cases ho : ev.registry.resolve? name with
    | none => rw [evalStep, evalStep, evalCall_unknown ho, evalCall_unknown ho]
    | some o =>
      cases hargs : o.accepts args.length with
      | false => rw [evalStep, evalStep, evalCall_arity ho hargs, evalCall_arity ho hargs]
      | true =>
        rw [evalStep, evalStep, evalCall_eq ho hargs, evalCall_eq ho hargs]
        rw [visited_call ho hargs] at h
        split
        · next hcond =>
          rw [if_pos hcond] at h
          exact chooseBranch_outcome_congr h
        · next hcond =>
          rw [if_neg hcond] at h
          exact Run.bind_outcome_congr (valuesUpTo_outcome_congr h) fun vs _ => rfl

/-- The branch that a conditional visits has to have a value. -/
theorem ok_of_mem_visitedBranch {v : Value} (h : (ev.chooseBranch eval args).outcome = .ok v)
    (he : e ∈ ev.visitedBranch eval args) : ∃ w, (eval e).outcome = .ok w := by
  match args with
  | [] => cases he
  | condition :: branches =>
    obtain ⟨c, hc, h⟩ := Run.bind_outcome_ok h
    simp only [visitedBranch, hc, List.mem_cons, Option.mem_toList] at he
    obtain rfl | he := he
    · exact ⟨c, hc⟩
    · split at h
      · next hholds =>
        match branches with
        | [] => cases h
        | yes :: _ =>
          obtain rfl : yes = e := by simpa [hholds] using he
          exact ⟨v, h⟩
      · next hholds =>
        match branches with
        | [] | [_] => simp [hholds] at he
        | _ :: no :: _ =>
          obtain rfl : no = e := by simpa [hholds] using he
          exact ⟨v, h⟩

/-- A step of evaluation ends in a value only if all visited parts do. -/
theorem ok_of_mem_visited {v : Value} {p : Expr} (h : (ev.evalStep r eval e).outcome = .ok v)
    (hp : p ∈ ev.visited eval e) : ∃ w, (eval p).outcome = .ok w := by
  cases e with
  | literal v | field name | bare v => cases hp
  | unary op e =>
    obtain ⟨w, hw, -⟩ := Run.bind_outcome_ok h
    obtain rfl := List.mem_singleton.1 hp
    exact ⟨w, hw⟩
  | binary op l r =>
    obtain ⟨a, ha, h⟩ := Run.bind_outcome_ok h
    obtain ⟨b, hb, -⟩ := Run.bind_outcome_ok h
    have hp : p = l ∨ p = r := by simpa [visited, visitedUpTo, ha, hb] using hp
    obtain rfl | rfl := hp
    · exact ⟨a, ha⟩
    · exact ⟨b, hb⟩
  | call name args =>
    cases ho : ev.registry.resolve? name with
    | none => simp [visited_call_unknown ho] at hp
    | some o =>
      cases hargs : o.accepts args.length with
      | false => simp [visited_call_arity ho hargs] at hp
      | true =>
        rw [evalStep, evalCall_eq ho hargs] at h
        rw [visited_call ho hargs] at hp
        split at h
        · next hcond =>
          rw [if_pos hcond] at hp
          exact ok_of_mem_visitedBranch h hp
        · next hcond =>
          rw [if_neg hcond] at hp
          obtain ⟨vs, hvs, -⟩ := Run.bind_outcome_ok h
          exact ok_of_mem_visitedUpTo hvs hp

theorem mem_of_mem_visitedBranch (he : e ∈ ev.visitedBranch eval args) : e ∈ args := by
  match args with
  | [] => cases he
  | condition :: branches =>
    rw [visitedBranch] at he
    rcases List.mem_cons.1 he with rfl | he
    · exact List.mem_cons_self
    · split at he
      · have hhead := List.mem_of_mem_head? (Option.mem_toList.1 he)
        split at hhead
        · exact List.mem_cons_of_mem _ hhead
        · exact List.mem_cons_of_mem _ (List.mem_of_mem_tail hhead)
      · cases he

theorem error_of_mem_visitedBranch {f : Failure} (hp : e ∈ ev.visitedBranch eval args)
    (hf : (eval e).outcome = .error f) : (ev.chooseBranch eval args).outcome = .error f := by
  match args with
  | [] => cases hp
  | condition :: branches =>
    cases hc : (eval condition).outcome with
    | error f' =>
      simp only [visitedBranch, hc, List.mem_singleton] at hp
      rw [hp, hc] at hf
      cases hf
      exact Run.bind_outcome_of_error hc _
    | ok c =>
      simp only [visitedBranch, hc, List.mem_cons, Option.mem_toList] at hp
      obtain rfl | hp := hp
      · rw [hc] at hf
        cases hf
      · rw [chooseBranch.eq_def]
        dsimp only
        rw [Run.bind_outcome_of_ok hc]
        split
        · next hholds =>
          match branches with
          | [] => simp [hholds] at hp
          | yes :: _ =>
            obtain rfl : yes = e := by simpa [hholds] using hp
            exact hf
        · next hholds =>
          match branches with
          | [] | [_] => simp [hholds] at hp
          | _ :: no :: _ =>
            obtain rfl : no = e := by simpa [hholds] using hp
            exact hf

/-- A step of evaluation fails with what a visited part fails with. -/
theorem error_of_mem_visited {f : Failure} {p : Expr} (hp : p ∈ ev.visited eval e)
    (hf : (eval p).outcome = .error f) : (ev.evalStep r eval e).outcome = .error f := by
  cases e with
  | literal v | field name | bare v => cases hp
  | unary op e =>
    obtain rfl := List.mem_singleton.1 hp
    exact Run.bind_outcome_of_error hf _
  | binary op left right =>
    cases hleft : (eval left).outcome with
    | error f' =>
      obtain rfl : p = left := by simpa [visited, visitedUpTo, hleft] using hp
      exact Run.bind_outcome_of_error hf _
    | ok a =>
      have hp : p = left ∨ p = right := by
        cases hright : (eval right).outcome <;>
          simpa [visited, visitedUpTo, hleft, hright] using hp
      rw [evalStep.eq_def]
      dsimp only
      rw [Run.bind_outcome_of_ok hleft]
      obtain rfl | rfl := hp
      · rw [hleft] at hf
        cases hf
      · exact Run.bind_outcome_of_error hf _
  | call name args =>
    cases ho : ev.registry.resolve? name with
    | none => simp [visited_call_unknown ho] at hp
    | some o =>
      cases hargs : o.accepts args.length with
      | false => simp [visited_call_arity ho hargs] at hp
      | true =>
        rw [evalStep, evalCall_eq ho hargs]
        rw [visited_call ho hargs] at hp
        split
        · next hcond =>
          rw [if_pos hcond] at hp
          exact error_of_mem_visitedBranch hp hf
        · next hcond =>
          rw [if_neg hcond] at hp
          exact Run.bind_outcome_of_error (error_of_mem_visitedUpTo hp hf) _

/-- The visited parts are parts. -/
theorem mem_parts_of_mem_visited {p : Expr} (hp : p ∈ ev.visited eval e) : p ∈ e.parts := by
  cases e with
  | literal v | field name | bare v => cases hp
  | unary op e => exact hp
  | binary op left right => exact mem_of_mem_visitedUpTo hp
  | call name args =>
    cases ho : ev.registry.resolve? name with
    | none => simp [visited_call_unknown ho] at hp
    | some o =>
      cases hargs : o.accepts args.length with
      | false => simp [visited_call_arity ho hargs] at hp
      | true =>
        rw [visited_call ho hargs] at hp
        split at hp
        · exact mem_of_mem_visitedBranch hp
        · exact mem_of_mem_visitedUpTo hp

/-- What ends in a value within some levels ends in it within more. -/
theorem evalWithin_succ_of_ok {n : Nat} {v : Value} (h : (ev.evalWithin r n e).outcome = .ok v) :
    (ev.evalWithin r (n + 1) e).outcome = .ok v := by
  induction n generalizing e v with
  | zero => cases h
  | succ n ih =>
    rw [evalWithin] at h ⊢
    have hparts : ∀ p ∈ ev.visited (ev.evalWithin r n) e,
        (ev.evalWithin r n p).outcome = (ev.evalWithin r (n + 1) p).outcome := by
      intro p hp
      obtain ⟨w, hw⟩ := ok_of_mem_visited h hp
      rw [hw, ih hw]
    rw [← evalStep_outcome_congr hparts, h]

theorem evalWithin_mono {n m : Nat} {v : Value} (hle : n ≤ m)
    (h : (ev.evalWithin r n e).outcome = .ok v) : (ev.evalWithin r m e).outcome = .ok v := by
  induction hle with
  | refl => exact h
  | step _ ih => exact evalWithin_succ_of_ok ih

end

/-! ## Visits -/

/-- A subexpression that an evaluation gets to, and what it comes to. -/
structure Visit where
  expr : Expr
  outcome : Except Failure Value

/-- The subexpressions that the evaluation of an expression gets to, the expression itself first. -/
def visits (ev : Evaluator) (r : Record) : (levels : Nat) → Expr → List Visit
  | 0, e => [⟨e, (ev.evalWithin r 0 e).outcome⟩]
  | n + 1, e =>
    ⟨e, (ev.evalWithin r (n + 1) e).outcome⟩ ::
      (ev.visited (ev.evalWithin r n) e).flatMap (visits ev r n)

section
variable {ev : Evaluator} {r : Record} {n : Nat} {e p : Expr} {visit : Visit}

theorem visits_self : ⟨e, (ev.evalWithin r n e).outcome⟩ ∈ ev.visits r n e := by
  cases n <;> exact List.mem_cons_self

theorem visits_part (hp : p ∈ ev.visited (ev.evalWithin r n) e) (h : visit ∈ ev.visits r n p) :
    visit ∈ ev.visits r (n + 1) e :=
  List.mem_cons_of_mem _ (List.mem_flatMap.2 ⟨p, hp, h⟩)

end

end RecordCalc.Evaluator
