import RecordCalc.Proofs.Evaluation.Named

/-
  The functions of three-valued logic in the Codd regime. `AND3` and `OR3` are the connectives of
  the regime. `NOT3` and `EQ3` are rules that count the empty text as missing; where the regime does
  too, or the empty text makes no difference, they come to what the negation and the equality of the
  regime come to.
-/

namespace RecordCalc

open Calendar (DateTime)

namespace Registry

theorem mem_builtIn_null {now : DateTime} {o : Operator} (ho : o ∈ Absence.nullOperators) :
    o ∈ builtInOperators now := by
  simp [builtInOperators, ho]

/-- The connectives take any number of arguments. -/
theorem exists_connective (now : DateTime) {id : String}
    (hid : id ∈ ["AND", "OR", "AND3", "OR3"]) :
    ∃ o ∈ builtInOperators now, o.id = id ∧ o.isLazy = true ∧ ∀ n : Nat, o.accepts n = true := by
  have hall : ∀ o ∈ [Logic.connectives[0], Logic.connectives[1], Absence.nullOperators[10],
      Absence.nullOperators[11]], o.isLazy = true ∧ ∀ n : Nat, o.accepts n = true := by
    simp [Logic.connectives, Absence.nullOperators, Operator.accepts]
  have hids : ["AND", "OR", "AND3", "OR3"] = [Logic.connectives[0], Logic.connectives[1],
      Absence.nullOperators[10], Absence.nullOperators[11]].map (·.id) := rfl
  rw [hids] at hid
  obtain ⟨o, ho, rfl⟩ := List.mem_map.1 hid
  refine ⟨o, ?_, rfl, hall o ho⟩
  rcases List.mem_append.1 (show o ∈ [_, _] ++ [_, _] from ho) with ho | ho
  · rcases List.mem_pair.1 ho with rfl | rfl <;>
      exact mem_builtIn_connective (List.getElem_mem _)
  · rcases List.mem_pair.1 ho with rfl | rfl <;> exact mem_builtIn_null (List.getElem_mem _)

theorem exists_not3 (now : DateTime) :
    ∃ o ∈ builtInOperators now, o.id = "NOT3" ∧ o.category = .null ∧ o.accepts 1 = true ∧
      o.rule = Rule.unary Absence.not3 :=
  ⟨Absence.nullOperators[12], mem_builtIn_null (List.getElem_mem _), rfl, rfl, rfl, rfl⟩

theorem exists_equal3 (now : DateTime) :
    ∃ o ∈ builtInOperators now, (o.id = "EQ3" ∧ o.displayName = "Three-Valued Equal") ∧
      o.category = .null ∧ o.accepts 2 = true ∧ o.rule = Rule.binary Absence.equal3 :=
  ⟨Absence.nullOperators[13], mem_builtIn_null (List.getElem_mem _), ⟨rfl, rfl⟩, rfl, rfl, rfl⟩

theorem exists_equal (now : DateTime) :
    ∃ o ∈ builtInOperators now, (o.id = "EQUAL" ∧ o.displayName = "Equal") ∧
      o.category = .comparison ∧ o.rule = Rule.binary Logic.equal :=
  ⟨Logic.comparisons[0], mem_builtIn_comparison (List.getElem_mem _), ⟨rfl, rfl⟩, rfl, rfl⟩

end Registry

namespace Evaluator

/-- Whether the empty text counts as missing makes no difference to some operands: it does count, or
is not among them, or one of them is missing anyway. -/
def EmptyTextSettled (ev : Evaluator) (vs : List Value) : Prop :=
  ev.emptyTextIsAbsent = true ∨ .text "" ∉ vs ∨ ∃ v ∈ vs, ev.isMissing v = true

/-- Missing for the rules of three-valued logic. -/
def missing3 (v : Value) : Bool := v.isUnknown || v.isAbsent true

section
variable {ev : Evaluator} {v a b : Value}

theorem missing3_eq (h : ev.emptyTextIsAbsent = true ∨ v ≠ .text "") :
    missing3 v = ev.isMissing v := by
  unfold missing3 isMissing
  rcases h with h | h
  · rw [h]
  · cases v with
    | text s =>
      have hs : s.isEmpty = false := by simpa [Value.text.injEq] using h
      simp [Value.isAbsent, hs]
    | _ => rfl

theorem missing3_of_isMissing (h : ev.isMissing v = true) : missing3 v = true := by
  unfold isMissing at h
  unfold missing3
  cases v with
  | text s => simp_all [Value.isAbsent, Value.isUnknown]
  | _ => exact h

/-- The rules find an operand missing just if the regime does. -/
theorem any_missing3 {vs : List Value} (h : ev.EmptyTextSettled vs) :
    vs.any missing3 = vs.any ev.isMissing := by
  rw [Bool.eq_iff_iff, List.any_eq_true, List.any_eq_true]
  constructor
  · rintro ⟨v, hv, hm⟩
    rcases h with h | h | h
    · exact ⟨v, hv, missing3_eq (.inl h) ▸ hm⟩
    · exact ⟨v, hv, missing3_eq (.inr fun ht => h (ht ▸ hv)) ▸ hm⟩
    · exact h
  · rintro ⟨v, hv, hm⟩
    exact ⟨v, hv, missing3_of_isMissing hm⟩

/-- The truth of an operand for the rules is that of the regime. -/
theorem truth3_eq (h : ev.EmptyTextSettled [v]) : v.truth true = ev.truth v := by
  have hmissing : missing3 v = ev.isMissing v := by simpa using any_missing3 h
  unfold missing3 isMissing at hmissing
  unfold truth Value.truth
  rw [hmissing]

end

/-! ## Rules -/

section
variable {ev : Evaluator} {o o' : Operator} {a b v : Value}

/-- The failures of two operators with one cause. -/
def SameCause (o o' : Operator) (x x' : Except Failure Value) : Prop :=
  ∃ f, x = .error (.ruleFault o.displayName o.id f) ∧
    x' = .error (.ruleFault o'.displayName o'.id f)

/-- Equality in three-valued logic. -/
theorem equal3_eq (a b : Value) :
    Absence.equal3 a b =
      if missing3 a || missing3 b then .ok .unknown else .bool <$> a.equals b := by
  unfold Absence.equal3 missing3
  cases a.isUnknown <;> cases b.isUnknown <;> cases a.isAbsent true <;>
    cases b.isAbsent true <;> rfl

/-- Equality in three-valued logic is the equality of the regime, apart from its name in a
failure. -/
theorem apply_equal3 (hc : ev.isCodd = true) (ho : o.rule = Rule.binary Absence.equal3)
    (ho' : o'.rule = Rule.binary Logic.equal) (h : ev.EmptyTextSettled [a, b]) :
    (ev.apply o [a, b]).outcome = (ev.comparison o' a b).outcome ∨
      SameCause o o' (ev.apply o [a, b]).outcome (ev.comparison o' a b).outcome := by
  have hany : (missing3 a || missing3 b) = (ev.isMissing a || ev.isMissing b) := by
    simpa using any_missing3 h
  have hrule : o.rule [a, b] = Rule.lift (Absence.equal3 a b) := by
    rw [ho]
    rfl
  rw [equal3_eq, hany] at hrule
  unfold comparison
  rw [hc, Bool.true_and]
  cases hm : ev.isMissing a || ev.isMissing b with
  | true =>
    rw [hm] at hrule
    exact .inl (apply_outcome_ok hrule)
  | false =>
    rw [hm] at hrule
    have hrule' : o'.rule [a, b] = Rule.lift (.bool <$> a.equals b) := by rw [ho']; rfl
    cases hequals : a.equals b with
    | ok c =>
      rw [hequals] at hrule hrule'
      exact .inl ((apply_outcome_ok hrule).trans (apply_outcome_ok hrule').symm)
    | error f =>
      rw [hequals] at hrule hrule'
      have hfault : (ev.apply o [a, b]).outcome = _ := apply_outcome_fault hrule
      have hfault' : (ev.apply o' [a, b]).outcome = _ := apply_outcome_fault hrule'
      cases hf : f.kind.isOperatorFault with
      | true =>
        rw [hf] at hfault hfault'
        exact .inr ⟨f, hfault, hfault'⟩
      | false =>
        rw [hf] at hfault hfault'
        exact .inl (hfault.trans hfault'.symm)

end

/-! ## Expressions -/

section
variable {now : DateTime} {emptyText : Bool} {ev : Evaluator} {o : Operator} {r : Record}
  {eval : Expr → Run Value}

/-- A call of a connective. -/
theorem evalCall_connective {id : String} (hid : id ∈ ["AND", "OR", "AND3", "OR3"])
    {run : (Expr → Run Value) → List Expr → Run Value}
    (hrun : (codd now emptyText).lazy? id = some run) (args : List Expr) :
    (codd now emptyText).evalCall eval id args = run eval args := by
  obtain ⟨o, ho, rfl, hlazy, hargs⟩ := Registry.exists_connective now hid
  have hresolve : (codd now emptyText).registry.resolve? o.id = some o := by
    rw [registry_codd, Registry.resolve?_id ho]
  rw [evalCall_lazy hresolve hlazy hrun, if_pos (hargs args.length)]

/-- Connectives that evaluate their arguments in one way are one function of them. -/
theorem eval_connective_congr {id id' : String}
    (hid : id ∈ ["AND", "OR", "AND3", "OR3"]) (hid' : id' ∈ ["AND", "OR", "AND3", "OR3"])
    {run : (Expr → Run Value) → List Expr → Run Value}
    (hrun : (codd now emptyText).lazy? id = some run)
    (hrun' : (codd now emptyText).lazy? id' = some run) (args : List Expr) :
    (codd now emptyText).eval r (.call id args) = (codd now emptyText).eval r (.call id' args) := by
  rw [eval, eval, levelLimit, evalWithin, evalWithin, evalStep, evalStep,
    evalCall_connective hid hrun, evalCall_connective hid' hrun']

theorem eval_and3 (args : List Expr) :
    (codd now emptyText).eval r (.call "AND3" args) =
      (codd now emptyText).eval r (.call "AND" args) :=
  eval_connective_congr (by decide) (by decide) rfl rfl args

theorem eval_or3 (args : List Expr) :
    (codd now emptyText).eval r (.call "OR3" args) =
      (codd now emptyText).eval r (.call "OR" args) :=
  eval_connective_congr (by decide) (by decide) rfl rfl args

theorem applyCall_null (hid : o.id ∉ "NOT" :: arithmeticIds) (hcategory : o.category = .null)
    (args : List Value) : ev.applyCall o args = ev.apply o args := by
  obtain ⟨hnot, harith⟩ := not_or.1 (mt List.mem_cons.2 hid)
  have harith : arithmeticIds.contains o.id = false := by simpa using harith
  simp only [applyCall, harith, hcategory]
  simp [hnot]

theorem applyCall_comparison (hid : o.id ∉ arithmeticIds) (hcategory : o.category = .comparison)
    (a b : Value) : ev.applyCall o [a, b] = ev.comparison o a b := by
  have harith : arithmeticIds.contains o.id = false := by simpa using hid
  simp only [applyCall, harith, hcategory]
  simp

/-- The negation of three-valued logic is that of the regime. -/
theorem eval_not3 {x : Expr}
    (h : ∀ v, ((codd now emptyText).evalWithin r (levelLimit - 1) x).outcome = .ok v →
      (codd now emptyText).EmptyTextSettled [v]) :
    ((codd now emptyText).eval r (.call "NOT3" [x])).outcome =
      ((codd now emptyText).eval r (.call "NOT" [x])).outcome := by
  have hreg := registry_codd now emptyText
  obtain ⟨o, ho, hid, hcategory, hargs, hrule⟩ := Registry.exists_not3 now
  have hcall : (codd now emptyText).eval r (.call "NOT3" [x]) =
      (codd now emptyText).evalWithin r (levelLimit - 1) x >>= fun v =>
        (codd now emptyText).applyCall o [v] := by
    rw [← hid]
    exact evalWithin_call_single hreg ho (by simp [hid, Registry.lazyIds]) hargs _ x
  rw [← eval_not hreg, hcall]
  refine Run.bind_outcome_congr rfl fun v hv => ?_
  rw [applyCall_null (by simp [hid, arithmeticIds]) hcategory,
    apply_outcome_ok (by rw [hrule]; rfl), truth3_eq (h v hv)]
  rfl

theorem eval_call_equal3 (now : DateTime) (emptyText : Bool) (r : Record) (x y : Expr) :
    ∃ o, (o.id = "EQ3" ∧ o.displayName = "Three-Valued Equal") ∧
      o.rule = Rule.binary Absence.equal3 ∧
      (codd now emptyText).eval r (.call "EQ3" [x, y]) =
        (codd now emptyText).evalWithin r (levelLimit - 1) x >>= fun a =>
          (codd now emptyText).evalWithin r (levelLimit - 1) y >>= fun b =>
            (codd now emptyText).apply o [a, b] := by
  obtain ⟨o, ho, ⟨hid, hname⟩, hcategory, hargs, hrule⟩ := Registry.exists_equal3 now
  refine ⟨o, ⟨hid, hname⟩, hrule, ?_⟩
  have hrun := evalWithin_call_pair (r := r) (registry_codd now emptyText) ho
    (by simp [hid, Registry.lazyIds]) hargs (levelLimit - 1) x y
  simp only [hid, applyCall_null (o := o) (by simp [hid, arithmeticIds]) hcategory] at hrun
  exact hrun

theorem eval_equal (now : DateTime) (emptyText : Bool) (r : Record) (x y : Expr) :
    ∃ o, (o.id = "EQUAL" ∧ o.displayName = "Equal") ∧ o.rule = Rule.binary Logic.equal ∧
      (codd now emptyText).eval r (.binary .equal x y) =
        (codd now emptyText).evalWithin r (levelLimit - 1) x >>= fun a =>
          (codd now emptyText).evalWithin r (levelLimit - 1) y >>= fun b =>
            (codd now emptyText).comparison o a b := by
  obtain ⟨o, ho, ⟨hid, hname⟩, hcategory, hrule⟩ := Registry.exists_equal now
  refine ⟨o, ⟨hid, hname⟩, hrule, ?_⟩
  have hop : BinaryOp.equal.operatorId? = some o.id := by rw [hid, BinaryOp.operatorId?]
  have hget : (codd now emptyText).registry.get o.id = .ok o := by
    rw [registry_codd, Registry.get_builtIn ho]
  have hvalue : (codd now emptyText).applyBinary .equal = (codd now emptyText).comparison o := by
    funext a b
    rw [applyBinary_eq hop hget, applyCall_comparison (by simp [hid, arithmeticIds]) hcategory]
  rw [← hvalue]
  rfl

/-- The equality of three-valued logic is that of the regime, apart from its name in a failure. -/
theorem eval_equal3 {x y : Expr}
    (h : ∀ a b, ((codd now emptyText).evalWithin r (levelLimit - 1) x).outcome = .ok a →
      ((codd now emptyText).evalWithin r (levelLimit - 1) y).outcome = .ok b →
      (codd now emptyText).EmptyTextSettled [a, b]) :
    ((codd now emptyText).eval r (.call "EQ3" [x, y])).outcome =
        ((codd now emptyText).eval r (.binary .equal x y)).outcome ∨
      ∃ f, ((codd now emptyText).eval r (.call "EQ3" [x, y])).outcome =
          .error (.ruleFault "Three-Valued Equal" "EQ3" f) ∧
        ((codd now emptyText).eval r (.binary .equal x y)).outcome =
          .error (.ruleFault "Equal" "EQUAL" f) := by
  obtain ⟨o, ⟨hid, hname⟩, hrule, hcall⟩ := eval_call_equal3 now emptyText r x y
  obtain ⟨o', ⟨hid', hname'⟩, hrule', hinfix⟩ := eval_equal now emptyText r x y
  rw [hcall, hinfix]
  cases hx : ((codd now emptyText).evalWithin r (levelLimit - 1) x).outcome with
  | error f => exact .inl (by rw [Run.bind_outcome_of_error hx, Run.bind_outcome_of_error hx])
  | ok a =>
    rw [Run.bind_outcome_of_ok hx, Run.bind_outcome_of_ok hx]
    cases hy : ((codd now emptyText).evalWithin r (levelLimit - 1) y).outcome with
    | error f => exact .inl (by rw [Run.bind_outcome_of_error hy, Run.bind_outcome_of_error hy])
    | ok b =>
      rw [Run.bind_outcome_of_ok hy, Run.bind_outcome_of_ok hy, ← hid, ← hname, ← hid', ← hname']
      exact apply_equal3 rfl hrule hrule' (h a b hx hy)

end

/-- In the Codd regime the functions of three-valued logic are the logic of the regime, wherever the
empty text counts as missing or makes no difference to the operands. A failure of the rule of an
equality bears the name of the operator. -/
theorem eval_three_valued (now : DateTime) (emptyText : Bool) (r : Record) :
    let ev := codd now emptyText
    (∀ xs, ev.eval r (.call "AND3" xs) = ev.eval r (.call "AND" xs)) ∧
    (∀ xs, ev.eval r (.call "OR3" xs) = ev.eval r (.call "OR" xs)) ∧
    (∀ x, (∀ v, (ev.evalWithin r (levelLimit - 1) x).outcome = .ok v → ev.EmptyTextSettled [v]) →
      (ev.eval r (.call "NOT3" [x])).outcome = (ev.eval r (.call "NOT" [x])).outcome) ∧
    ∀ x y, (∀ a b, (ev.evalWithin r (levelLimit - 1) x).outcome = .ok a →
        (ev.evalWithin r (levelLimit - 1) y).outcome = .ok b → ev.EmptyTextSettled [a, b]) →
      (ev.eval r (.call "EQ3" [x, y])).outcome = (ev.eval r (.binary .equal x y)).outcome ∨
        ∃ f, (ev.eval r (.call "EQ3" [x, y])).outcome =
            .error (.ruleFault "Three-Valued Equal" "EQ3" f) ∧
          (ev.eval r (.binary .equal x y)).outcome = .error (.ruleFault "Equal" "EQUAL" f) :=
  ⟨eval_and3, eval_or3, fun _ => eval_not3, fun _ _ => eval_equal3⟩

/-- The empty text does not count as missing, but no operand is it. -/
theorem eval_three_valued_five :
    let ev := codd Registry.epoch false
    let r : Record := [("a", .int 5), ("b", .text "5")]
    (ev.eval r (.call "NOT3" [.field "a"])).outcome =
        (ev.eval r (.call "NOT" [.field "a"])).outcome ∧
      ((ev.eval r (.call "EQ3" [.field "a", .field "b"])).outcome =
          (ev.eval r (.binary .equal (.field "a") (.field "b"))).outcome ∨
        ∃ f, (ev.eval r (.call "EQ3" [.field "a", .field "b"])).outcome =
            .error (.ruleFault "Three-Valued Equal" "EQ3" f) ∧
          (ev.eval r (.binary .equal (.field "a") (.field "b"))).outcome =
            .error (.ruleFault "Equal" "EQUAL" f)) := by
  intro ev r
  have ha : (ev.evalWithin r (levelLimit - 1) (.field "a")).outcome = .ok (.int 5) := rfl
  have hb : (ev.evalWithin r (levelLimit - 1) (.field "b")).outcome = .ok (.text "5") := rfl
  obtain ⟨-, -, hnot3, hequal3⟩ := eval_three_valued Registry.epoch false r
  refine ⟨hnot3 _ fun v hv => ?_, hequal3 _ _ fun a b hva hvb => ?_⟩
  · cases ha.symm.trans hv
    exact .inr (.inl (by simp [Value.int]))
  · cases ha.symm.trans hva
    cases hb.symm.trans hvb
    exact .inr (.inl (by simp [Value.int]))

/-- A signaling not-a-number cannot be compared with an integer, in arrays too. -/
theorem equals_signaling (origin : Option Origin) (n : Int) :
    (Value.list [.decimal (.notANumber true false 0 origin)]).equals (.list [.int n]) =
      .error .decimalInvalid := by
  have hitem : (Value.decimal (.notANumber true false 0 origin)).equal (.int n) =
      .error .decimalInvalid := by
    rw [Value.equal, Value.equalNumeric]
    rfl
  change (Value.list [.decimal (.notANumber true false 0 origin)]).equal (.list [.int n]) = _
  rw [Value.equal]
  refine (if_pos rfl).trans ?_
  rw [Value.equalItems, hitem]
  rfl

/-- A signaling not-a-number cannot be compared: the failure bears the name of the function, not
that of the equality. -/
theorem eval_equal3_ne_equal :
    let ev := codd Registry.epoch true
    let r : Record :=
      [("x", .list [.decimal (.notANumber true false 0 none)]), ("y", .list [.int 1])]
    (ev.eval r (.call "EQ3" [.field "x", .field "y"])).outcome ≠
      (ev.eval r (.binary .equal (.field "x") (.field "y"))).outcome := by
  intro ev r
  let nan : Decimal := .notANumber true false 0 (some ⟨.field "x", [0]⟩)
  have hx : (ev.evalWithin r (levelLimit - 1) (.field "x")).outcome =
      .ok (.list [.decimal nan]) := rfl
  have hy : (ev.evalWithin r (levelLimit - 1) (.field "y")).outcome = .ok (.list [.int 1]) := rfl
  obtain ⟨o, ⟨hid, -⟩, hrule, hcall⟩ := eval_call_equal3 Registry.epoch true r
    (.field "x") (.field "y")
  obtain ⟨o', ⟨hid', -⟩, hrule', hinfix⟩ := eval_equal Registry.epoch true r
    (.field "x") (.field "y")
  have hequals : (Value.list [.decimal nan]).equals (.list [.int 1]) = .error .decimalInvalid :=
    equals_signaling _ 1
  have hfault : o.rule [.list [.decimal nan], .list [.int 1]] = .error (.fault .decimalInvalid) := by
    rw [hrule, Rule.binary, equal3_eq, hequals]
    rfl
  have hfault' : o'.rule [.list [.decimal nan], .list [.int 1]] =
      .error (.fault .decimalInvalid) := by
    rw [hrule', Rule.binary, Logic.equal, hequals]
    rfl
  have hanswered : Fault.decimalInvalid.kind.isOperatorFault = true := rfl
  have hcomparison : ev.comparison o' (.list [.decimal nan]) (.list [.int 1]) =
      ev.apply o' [.list [.decimal nan], .list [.int 1]] := rfl
  rw [hcall, hinfix, Run.bind_outcome_of_ok hx, Run.bind_outcome_of_ok hx,
    Run.bind_outcome_of_ok hy, Run.bind_outcome_of_ok hy, hcomparison, apply_outcome_fault hfault,
    apply_outcome_fault hfault', hid, hid', if_pos hanswered, if_pos hanswered]
  intro heq
  simp at heq

end Evaluator

end RecordCalc
