import RecordCalc.Proofs.Evaluation.Dispatch
import RecordCalc.Proofs.Evaluation.Exactness
import RecordCalc.Proofs.Evaluation.Recalculation
import RecordCalc.Proofs.Evaluation.ThreeValued
import RecordCalc.Proofs.Evaluation.Visits
import RecordCalc.Proofs.Number.NotANumber

/-
  Formulas in place of the fields that they calculate. An expression with a formula put in place of
  a field comes to what it comes to when the field holds the value of the formula
  (`eval_inlined`), with two exceptions. The formula adds its levels to those of the expression,
  which may then be nested too deeply (`evalWithin_inlined`). And a not-a-number that the formula
  comes to is another one each time, but the same one each time when it is stored
  (`eval_inlined_ne_stored`).
-/

namespace RecordCalc

open Calendar (DateTime)

/-! ## Expressions -/

namespace Expr

mutual

/-- The expression with another in place of each reference to a field. -/
def inlined (e : Expr) (f : String) (g : Expr) : Expr :=
  match e with
  | literal v => literal v
  | field name => if name = f then g else field name
  | call name args => call name (inlinedAll args f g)
  | unary op e => unary op (e.inlined f g)
  | binary op l r => binary op (l.inlined f g) (r.inlined f g)
  | bare v => bare v

/-- A list of expressions with another expression in place of each reference to a field. -/
def inlinedAll (es : List Expr) (f : String) (g : Expr) : List Expr :=
  match es with
  | [] => []
  | e :: es => e.inlined f g :: inlinedAll es f g

end

section
variable {e p g : Expr} {es : List Expr} {f name : String}

theorem inlinedAll_eq (es : List Expr) (f : String) (g : Expr) :
    inlinedAll es f g = es.map fun e => e.inlined f g := by
  induction es with
  | nil => rfl
  | cons e es ih => rw [inlinedAll, ih, List.map_cons]

theorem depth_le_depthOf (he : e ∈ es) : e.depth ≤ depthOf es := by
  induction es with
  | nil => cases he
  | cons e' es ih =>
    rw [depthOf]
    rcases List.mem_cons.1 he with rfl | he
    · exact Nat.le_max_left _ _
    · exact (ih he).trans (Nat.le_max_right _ _)

theorem depth_lt_of_mem_parts (hp : p ∈ e.parts) : p.depth < e.depth := by
  cases e with
  | literal | field | bare => cases hp
  | call name args =>
    have hle : p.depth ≤ depthOf args := depth_le_depthOf hp
    rw [depth]
    omega
  | unary op e =>
    rw [List.mem_singleton.1 hp, depth]
    omega
  | binary op l r =>
    rw [depth]
    rcases List.mem_pair.1 hp with rfl | rfl <;> omega

theorem depth_pos (e : Expr) : 0 < e.depth := by
  cases e <;> rw [depth] <;> omega

/-- The parts of an expression are inlined with it. -/
theorem inlined_mem_parts (hp : p ∈ e.parts) (f : String) (g : Expr) :
    p.inlined f g ∈ (e.inlined f g).parts := by
  cases e with
  | literal | field | bare => cases hp
  | call name args =>
    rw [inlined, inlinedAll_eq]
    exact List.mem_map_of_mem hp
  | unary op e =>
    rw [List.mem_singleton.1 hp, inlined]
    exact List.mem_singleton_self _
  | binary op l r =>
    rw [inlined]
    rcases List.mem_pair.1 hp with rfl | rfl
    · exact List.mem_cons_self
    · exact List.mem_cons_of_mem _ List.mem_cons_self

mutual

/-- The calls in an expression with another inlined are those of both. -/
theorem mem_callNames_inlined (e : Expr) (h : name ∈ (e.inlined f g).callNames) :
    name ∈ e.callNames ∨ name ∈ g.callNames := by
  match e with
  | literal v | bare v => exact Or.inl h
  | field other =>
    rw [inlined] at h
    split at h
    · exact Or.inr h
    · exact Or.inl h
  | call other args =>
    rw [inlined, callNames] at h
    rcases List.mem_cons.1 h with rfl | h
    · exact Or.inl List.mem_cons_self
    · exact (mem_callNamesOf_inlined args h).imp_left (List.mem_cons_of_mem _)
  | unary op e =>
    rw [inlined] at h
    exact mem_callNames_inlined e h
  | binary op l r =>
    rw [inlined, callNames] at h
    rcases List.mem_append.1 h with h | h
    · exact (mem_callNames_inlined l h).imp_left (List.mem_append_left _)
    · exact (mem_callNames_inlined r h).imp_left (List.mem_append_right _)

theorem mem_callNamesOf_inlined (es : List Expr) (h : name ∈ callNamesOf (inlinedAll es f g)) :
    name ∈ callNamesOf es ∨ name ∈ g.callNames := by
  match es with
  | [] => exact Or.inl h
  | e :: es =>
    rw [inlinedAll, callNamesOf] at h
    rcases List.mem_append.1 h with h | h
    · exact (mem_callNames_inlined e h).imp_left (List.mem_append_left _)
    · exact (mem_callNamesOf_inlined es h).imp_left (List.mem_append_right _)

end

theorem IsTimeless.inlined (he : e.IsTimeless) (hg : g.IsTimeless) (f : String) :
    (e.inlined f g).IsTimeless := by
  intro name hname
  rcases mem_callNames_inlined e hname with h | h
  · exact he name h
  · exact hg name h

end

end Expr

namespace Evaluator

/-! ## Evaluations of other expressions -/

section
variable {ev : Evaluator} {r : Record} {f : String} {g : Expr} {v : Value}

theorem valuesUpTo_map (eval : Expr → Run Value) (decides : Value → Bool) (φ : Expr → Expr)
    (es : List Expr) :
    valuesUpTo eval decides (es.map φ) = valuesUpTo (fun e => eval (φ e)) decides es := by
  induction es with
  | nil => rfl
  | cons e es ih => rw [List.map_cons, valuesUpTo, valuesUpTo, ih]

theorem chooseBranch_map (ev : Evaluator) (eval : Expr → Run Value) (φ : Expr → Expr)
    (es : List Expr) :
    ev.chooseBranch eval (es.map φ) = ev.chooseBranch (fun e => eval (φ e)) es := by
  match es with
  | [] | [_] | [_, _] | _ :: _ :: _ :: _ => rfl

/-- A call with other arguments is a call with the arguments evaluated as these. -/
theorem evalCall_map (ev : Evaluator) (eval : Expr → Run Value) (φ : Expr → Expr) (name : String)
    (args : List Expr) :
    ev.evalCall eval name (args.map φ) = ev.evalCall (fun e => eval (φ e)) name args := by
  cases ho : ev.registry.resolve? name with
  | none => rw [evalCall_unknown ho, evalCall_unknown ho]
  | some o =>
    have hlength : (args.map φ).length = args.length := List.length_map φ
    cases hargs : o.accepts args.length with
    | false =>
      rw [evalCall_arity ho (hlength.symm ▸ hargs), evalCall_arity ho hargs, hlength]
    | true =>
      rw [evalCall_eq ho (hlength.symm ▸ hargs), evalCall_eq ho hargs, chooseBranch_map,
        valuesUpTo_map]

/-- A step in the inlined expression is a step in the expression, its parts evaluated as the
inlined ones; the record matters for the other fields alone. -/
theorem evalStep_inlined {e : Expr} (he : e ≠ .field f) (eval : Expr → Run Value) :
    ev.evalStep r eval (e.inlined f g) =
      ev.evalStep (r.set f v) (fun p => eval (p.inlined f g)) e := by
  cases e with
  | literal | bare => rfl
  | field name =>
    have hname : name ≠ f := fun h => he (h ▸ rfl)
    rw [Expr.inlined, if_neg hname, evalStep, evalStep, Record.get_set_of_ne r hname]
  | call name args =>
    rw [Expr.inlined, Expr.inlinedAll_eq]
    exact evalCall_map ev eval (fun e => e.inlined f g) name args
  | unary op e =>
    rw [Expr.inlined]
    rfl
  | binary op left right =>
    rw [Expr.inlined]
    rfl

/-! ## Expressions that are nested too deeply -/

/-- The expression has more levels than some, and its evaluation within these fails for it. -/
def IsTooDeep (ev : Evaluator) (r : Record) (levels : Nat) (e : Expr) : Prop :=
  levels < e.depth ∧ (ev.evalWithin r levels e).outcome = .error .nestingTooDeep

/-- An expression is nested too deeply when a part that is evaluated is. -/
theorem IsTooDeep.of_part {n : Nat} {e p : Expr} (h : ev.IsTooDeep r n p)
    (hp : p ∈ ev.visited (ev.evalWithin r n) e) : ev.IsTooDeep r (n + 1) e := by
  have hdepth := Expr.depth_lt_of_mem_parts (mem_parts_of_mem_visited hp)
  have hlevels := h.1
  exact ⟨by omega, error_of_mem_visited hp h.2⟩

/-- Within fewer levels an expression comes to the same, or is nested too deeply. -/
theorem evalWithin_of_le {n m : Nat} (hle : n ≤ m) (e : Expr) :
    (ev.evalWithin r n e).outcome = (ev.evalWithin r m e).outcome ∨ ev.IsTooDeep r n e := by
  induction n generalizing m e with
  | zero => exact Or.inr ⟨e.depth_pos, rfl⟩
  | succ n ih =>
    obtain ⟨m, rfl⟩ : ∃ m', m = m' + 1 := ⟨m - 1, by omega⟩
    rw [evalWithin, evalWithin]
    by_cases hall : ∀ p ∈ ev.visited (ev.evalWithin r n) e,
        (ev.evalWithin r n p).outcome = (ev.evalWithin r m p).outcome
    · exact Or.inl (evalStep_outcome_congr hall)
    · push Not at hall
      obtain ⟨p, hp, hne⟩ := hall
      obtain heq | hdeep := ih (Nat.le_of_succ_le_succ hle) p
      · exact absurd heq hne
      · exact Or.inr (hdeep.of_part hp)

/-- A field that a value is written to comes to the value when this is a plain one, and keeps its
not-a-numbers as they are. -/
theorem evalStep_set (hplain : v.observations? = none) (hkept : v.keptBy (.field f) = v)
    (eval : Expr → Run Value) :
    (ev.evalStep (r.set f v) eval (.field f)).outcome = .ok v := by
  have hget : (r.set f v).get f = v := by
    rw [Record.get, Record.lookup_set, if_pos rfl]
    exact hkept
  rw [evalStep, hget, Value.resolveCell, hplain]
  rfl

/-- An expression with another inlined comes to what it comes to when the field holds the value of
the other, unless it is nested too deeply. -/
theorem evalWithin_inlined {n m : Nat} (hg : (ev.evalWithin r m g).outcome = .ok v)
    (hplain : v.observations? = none) (hkept : v.keptBy (.field f) = v) (hle : n ≤ m) (e : Expr) :
    (ev.evalWithin r n (e.inlined f g)).outcome = (ev.evalWithin (r.set f v) n e).outcome ∨
      ev.IsTooDeep r n (e.inlined f g) := by
  induction n generalizing e with
  | zero => exact Or.inl rfl
  | succ n ih =>
    by_cases hfield : e = .field f
    · have hinlined : e.inlined f g = g := by rw [hfield, Expr.inlined, if_pos rfl]
      rw [hinlined, hfield]
      refine (evalWithin_of_le hle g).imp_left fun heq => ?_
      rw [heq, hg]
      exact (evalStep_set hplain hkept _).symm
    · rw [IsTooDeep, evalWithin, evalWithin, evalStep_inlined (v := v) hfield]
      let eval : Expr → Run Value := fun p => ev.evalWithin r n (p.inlined f g)
      by_cases hall : ∀ p ∈ ev.visited eval e,
          (eval p).outcome = (ev.evalWithin (r.set f v) n p).outcome
      · exact Or.inl (evalStep_outcome_congr hall)
      · push Not at hall
        obtain ⟨p, hp, hne⟩ := hall
        obtain heq | ⟨hlevels, hdeep⟩ := ih (Nat.le_of_succ_le hle) p
        · exact absurd heq hne
        · have hpart := Expr.inlined_mem_parts (mem_parts_of_mem_visited hp) f g
          have hdepth := Expr.depth_lt_of_mem_parts hpart
          exact Or.inr ⟨by omega, error_of_mem_visited hp hdeep⟩

end

/-- Inlining the formula of a field is storing its value, at any moments. Let a formula come to a
value that is a plain one, with no not-a-number beyond those that are kept already. Then an
expression with the formula in place of a field comes to the same value, or fails in the same way,
as it does when the field holds the value, unless it is nested beyond the levels that are evaluated
and fails for that. -/
theorem eval_inlined {ev ev₁ ev₂ : Evaluator} {r : Record} {f : String} {e g : Expr} {v : Value}
    (h₁ : ev.SameBeyondClock ev₁) (h₂ : ev.SameBeyondClock ev₂) (he : e.IsTimeless)
    (hg : g.IsTimeless) (hv : (ev.eval r g).outcome = .ok v) (hplain : v.observations? = none)
    (hkept : v.keptBy (.field f) = v) :
    (ev₁.eval r (e.inlined f g)).outcome = (ev₂.eval (r.set f v) e).outcome ∨
      ev₁.IsTooDeep r levelLimit (e.inlined f g) := by
  have hinlined : ev.evalWithin r levelLimit (e.inlined f g) = ev₁.evalWithin r levelLimit _ :=
    h₁.evalWithin levelLimit (he.inlined hg f) fun _ _ => rfl
  have hstored : ev.eval (r.set f v) e = ev₂.eval (r.set f v) e :=
    h₂.evalWithin levelLimit he fun _ _ => rfl
  rw [IsTooDeep, eval, ← hinlined, ← hstored]
  exact evalWithin_inlined hv hplain hkept (Nat.le_refl levelLimit) e

/-- The formula of a total reads the total before. -/
theorem eval_inlined_total :
    let e : Expr := .binary .multiply (.field "total") (.field "total")
    let g : Expr := .binary .add (.field "total") (.literal (.int 3))
    let r : Record := [("total", .int 4)]
    let leapDay : DateTime := .ofDate ⟨2024, 2, 29, by decide⟩
    ((codd Registry.epoch true).eval r g).outcome = .ok (.int 7) ∧
      ((codd Registry.epoch true).eval r (e.inlined "total" g)).outcome =
        ((codd leapDay true).eval (r.set "total" (.int 7)) e).outcome := by
  intro e g r leapDay
  have hexact : g.exactValue? (Record.integer? r) = some 7 := by decide +kernel
  have hv : ((codd Registry.epoch true).eval r g).outcome = .ok (.int 7) :=
    (eval_exact Registry.epoch .codd true r hexact).1
  have heq := eval_inlined (f := "total") (e := e) (.refl _)
    (.builtIn Registry.epoch leapDay .codd true) (by decide) (by decide) hv rfl rfl
  refine ⟨hv, heq.resolve_right fun hdeep => ?_⟩
  exact absurd hdeep.1 (by decide)

/-! ## Nesting -/

theorem inlined_iterate_unary (op : UnaryOp) (k : Nat) (e : Expr) (f : String) (g : Expr) :
    ((Expr.unary op)^[k] e).inlined f g = (Expr.unary op)^[k] (e.inlined f g) := by
  induction k with
  | zero => rfl
  | succ k ih =>
    rw [Function.iterate_succ_apply', Function.iterate_succ_apply', Expr.inlined, ih]

/-- An even number of minus signs changes nothing but the depth. -/
theorem reaches_iterate_negate {ev : Evaluator} {now : DateTime} (hreg : ev.registry = .builtIn now)
    {r : Record} {e : Expr} {n : Int} (h : e.exactValue? r.integer? = some n) {k : Nat}
    (hk : Even k) (levels : Nat) :
    Reaches levels (e.depth + k) (ev.evalWithin r levels ((Expr.unary .negate)^[k] e))
      (.int n) := by
  have hexact := exactValue?_iterate_negate_of h k
  rw [neg_involutive.iterate_even hk] at hexact
  rw [← depth_iterate_unary .negate]
  exact reaches_exact hreg hexact levels

/-! ## Not-a-number -/

section
variable {now : DateTime} {emptyText : Bool} {r : Record}

/-- A difference of infinities is a new not-a-number. -/
theorem applyBinary_infinity :
    let infinity : Value := .number (.float (Binary64.infinity false))
    ((codd now emptyText).applyBinary .subtract infinity infinity).outcome =
      .ok (.number (.float Binary64.nan)) := by
  intro infinity
  obtain ⟨o, ho, hid, hrule⟩ : ∃ o ∈ Arithmetic.operators, o.id = "SUBTRACT" ∧
      o.rule = Rule.binary Arithmetic.subtract :=
    ⟨Arithmetic.operators[1], List.getElem_mem _, rfl, rfl⟩
  have hget : (codd now emptyText).registry.get "SUBTRACT" = .ok o := by
    rw [registry_codd, ← hid, Registry.get_builtIn (Registry.mem_builtIn_arithmetic ho)]
  have hnumber : infinity.toNumber? = some (.float (Binary64.infinity false)) := by
    rw [Value.toNumber?, if_neg (by rw [Binary64.isNaN_infinity]; decide)]
  have hoperand : (codd now emptyText).strictOperand infinity = infinity := by
    show Value.ofNumber? infinity.toNumber? = infinity
    rw [hnumber]
    rfl
  have hdifference : Binary64.infinity false - Binary64.infinity false = Binary64.nan := by
    decide +kernel
  rw [applyBinary_arithmetic rfl (by decide), hget, Run.ofExcept_ok_bind, arithmetic, isCodd_codd,
    if_pos rfl, hoperand]
  refine apply_outcome_ok ?_
  rw [hrule]
  show Rule.lift (.number <$> infinity.toNumber.sub infinity.toNumber) = _
  rw [Value.toNumber, hnumber, ← hdifference]
  rfl

theorem evalWithin_binary_literal {ev : Evaluator} (n : Nat) (op : BinaryOp) (a b : Value) :
    (ev.evalWithin r (n + 2) (.binary op (.literal a) (.literal b))).outcome =
      (ev.applyBinary op a b).outcome := rfl

/-- An array of it. -/
theorem evalWithin_unique_difference (n : Nat) :
    let infinity : Expr := .literal (.number (.float (Binary64.infinity false)))
    ((codd now emptyText).evalWithin r (n + 3)
      (.call "UNIQUE" [.binary .subtract infinity infinity])).outcome =
        .ok (.list [.number (.float Binary64.nan)]) := by
  intro infinity
  obtain ⟨o, ho, hid, hargs, hcategory, hrule⟩ : ∃ o ∈ Aggregates.operators, o.id = "UNIQUE" ∧
      o.accepts 1 = true ∧ o.category = .aggregate ∧ o.rule = Rule.unary Aggregates.distinct :=
    ⟨Aggregates.operators[8], List.getElem_mem _, rfl, rfl, rfl, rfl⟩
  have hmem : o ∈ builtInOperators now := by simp [builtInOperators, ho]
  have hdifference : ((codd now emptyText).evalWithin r (n + 2)
      (.binary .subtract infinity infinity)).outcome = .ok (.number (.float Binary64.nan)) := by
    rw [evalWithin_binary_literal]
    exact applyBinary_infinity
  rw [← hid, evalWithin_call_single (registry_codd now emptyText) hmem
    (by simp [hid, Registry.lazyIds]) hargs, Run.bind_outcome_of_ok hdifference,
    applyCall_of_other _ _ _ (by simp), if_neg (by simp [hcategory]), if_neg (by simp [hid])]
  refine apply_outcome_ok ?_
  rw [hrule]
  rfl

/-- Arrays are equal when their items are. -/
theorem eval_equal_lists {x y : Expr} {vs ws : List Value} {b : Bool}
    (hx : ((codd now emptyText).evalWithin r (levelLimit - 1) x).outcome = .ok (.list vs))
    (hy : ((codd now emptyText).evalWithin r (levelLimit - 1) y).outcome = .ok (.list ws))
    (h : Value.equals (.list vs) (.list ws) = .ok b) :
    ((codd now emptyText).eval r (.binary .equal x y)).outcome = .ok (.bool b) := by
  obtain ⟨o, -, hrule, heval⟩ := eval_equal now emptyText r x y
  rw [heval, Run.bind_outcome_of_ok hx, Run.bind_outcome_of_ok hy]
  refine apply_outcome_ok ?_
  rw [hrule]
  show Rule.lift (.bool <$> Value.equals (.list vs) (.list ws)) = _
  rw [h]
  rfl

/-- Arrays of one number are equal when it is the same not-a-number or an equal number. -/
theorem equals_list_number (m n : Number) :
    Value.equals (.list [.number m]) (.list [.number n]) = .ok (m.isSameNaN n || m.equal n) := by
  have hlists : Value.equals (.list [.number m]) (.list [.number n]) =
      Value.equal (.list [.number m]) (.list [.number n]) := rfl
  have hnumbers : Value.equal (.number m) (.number n) = .ok (m.equal n) := by
    rw [Value.equal, Value.equalNumeric]
    rfl
  rw [hlists, Value.equal, List.length_singleton, List.length_singleton, if_pos rfl,
    Value.equalItems, Value.isSamePart, hnumbers, Value.equalItems]
  cases m.isSameNaN n <;> cases m.equal n <;> rfl

/-- Stored, the array has the same not-a-number each time. -/
theorem eval_equal_stored :
    let v : Value := .list [.number (.float Binary64.nan)]
    ((codd now emptyText).eval (Record.set [] "f" v)
      (.binary .equal (.field "f") (.field "f"))).outcome = .ok (.bool true) := by
  intro v
  let kept : List Value := [.number (.nan ⟨.field "f", [0]⟩)]
  have hget : (Record.set [] "f" v).get "f" = .list kept := by
    have hnan : Binary64.isNaN Binary64.nan = true := by decide +kernel
    show Value.list [.number (if Binary64.isNaN Binary64.nan = true then .nan ⟨.field "f", [0]⟩
      else .float Binary64.nan)] = _
    rw [if_pos hnan]
  have hfield : ((codd now emptyText).evalWithin (Record.set [] "f" v) (levelLimit - 1)
      (.field "f")).outcome = .ok (.list kept) := by
    rw [levelLimit, evalWithin, evalStep, hget]
    rfl
  exact eval_equal_lists hfield hfield (equals_list_number _ _)

end

/-- One under three hundred minus signs inlined under three hundred others is nested too deeply. A
difference of infinities in an array is another not-a-number each time, so the array is not equal to
itself, unless it is stored. -/
theorem eval_inlined_ne_stored :
    let ev : Evaluator := codd Registry.epoch true
    let signs : Expr → Expr := (Expr.unary .negate)^[300]
    let one : Expr := signs (.literal (.int 1))
    let infinity : Expr := .literal (.number (.float (Binary64.infinity false)))
    let array : Expr := .call "UNIQUE" [.binary .subtract infinity infinity]
    let same : Expr := .binary .equal (.field "f") (.field "f")
    let v : Value := .list [.number (.float Binary64.nan)]
    ((ev.eval [] one).outcome = .ok (.int 1) ∧
      (ev.eval [] ((signs (.field "f")).inlined "f" one)).outcome ≠
        (ev.eval (Record.set [] "f" (.int 1)) (signs (.field "f"))).outcome) ∧
    ((ev.eval [] array).outcome = .ok v ∧ v.observations? = none ∧
      (ev.eval [] (same.inlined "f" array)).outcome ≠
        (ev.eval (Record.set [] "f" v) same).outcome) := by
  intro ev signs one infinity array same v
  have hreg : ev.registry = .builtIn Registry.epoch := registry_codd Registry.epoch true
  have heven : Even 300 := by decide
  refine ⟨⟨?_, ?_⟩, evalWithin_unique_difference (levelLimit - 3), rfl, ?_⟩
  · have hone := reaches_iterate_negate (r := []) hreg (e := .literal (.int 1)) rfl heven levelLimit
    rwa [Reaches, if_pos (by decide)] at hone
  · have hinlined : (signs (.field "f")).inlined "f" one =
        (Expr.unary .negate)^[600] (.literal (.int 1)) := by
      rw [inlined_iterate_unary, Expr.inlined, if_pos rfl]
      exact (Function.iterate_add_apply _ 300 300 _).symm
    have hdeep := reaches_iterate_negate (r := []) hreg (e := .literal (.int 1)) rfl
      (show Even 600 by decide) levelLimit
    have hstored := reaches_iterate_negate (r := Record.set [] "f" (.int 1)) hreg
      (e := .field "f") rfl heven levelLimit
    rw [Reaches, if_neg (by decide)] at hdeep
    rw [Reaches, if_pos (by decide)] at hstored
    rw [hinlined, eval, hdeep, eval, hstored]
    simp
  · have harray : (ev.evalWithin [] (levelLimit - 1) array).outcome = .ok v :=
      evalWithin_unique_difference (levelLimit - 4)
    have hinlined : (ev.eval [] (same.inlined "f" array)).outcome = .ok (.bool false) := by
      have hne : (Binary64.nan == Binary64.nan) = false := by decide +kernel
      have hequals := equals_list_number (.float Binary64.nan) (.float Binary64.nan)
      rw [show Number.isSameNaN _ _ = false from rfl, Number.equal, hne] at hequals
      exact eval_equal_lists harray harray hequals
    rw [hinlined, eval_equal_stored]
    simp

end Evaluator

end RecordCalc
