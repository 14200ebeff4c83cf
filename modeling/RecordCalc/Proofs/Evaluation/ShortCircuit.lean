import RecordCalc.Proofs.Evaluation.ThreeValued

/-
  Short circuits. A connective that is called leaves the arguments behind a decisive one
  unevaluated, a conditional the branch that it does not choose. What they come to is what the rule
  of the operator would say of all the values, if all the arguments had one; failures count only up
  to the first argument that settles the result (`short_circuit_eq_eager`).
-/

namespace RecordCalc

open Calendar (DateTime)

namespace Truth

theorem all_of_mem {ts : List Truth} (h : no ∈ ts) : all ts = no := by
  induction ts with
  | nil => cases h
  | cons t ts ih =>
    change t.and (all ts) = no
    rcases List.mem_cons.1 h with rfl | h
    · cases all ts <;> rfl
    · rw [ih h, and_no]

theorem any_of_mem {ts : List Truth} (h : yes ∈ ts) : any ts = yes := by
  induction ts with
  | nil => cases h
  | cons t ts ih =>
    change t.or (any ts) = yes
    rcases List.mem_cons.1 h with rfl | h
    · cases any ts <;> rfl
    · rw [ih h, or_yes]

end Truth

/-! ## What settles a connective -/

/-- A rule of logic for any number of arguments: the truth value that it takes an argument for, and
the one that settles its result. -/
structure Junction where
  truth : Value → Truth
  decisive : Truth
  rule : Rule

/-- The first failure among the outcomes of some arguments. -/
def FirstFailure (f : Failure) (outcomes : List (Except Failure Value)) : Prop :=
  ∃ (before : List Value) (after : List (Except Failure Value)),
    outcomes = before.map .ok ++ .error f :: after

namespace Junction

/-- Conjunction in two-valued logic. -/
def and : Junction := ⟨fun v => .ofBool v.toBoolean, .no, Rule.many Logic.and⟩

/-- Disjunction in two-valued logic. -/
def or : Junction := ⟨fun v => .ofBool v.toBoolean, .yes, Rule.many Logic.or⟩

/-- Conjunction in three-valued logic. -/
def and3 : Junction := ⟨(·.truth true), .no, Rule.many Absence.and3⟩

/-- Disjunction in three-valued logic. -/
def or3 : Junction := ⟨(·.truth true), .yes, Rule.many Absence.or3⟩

/-- The connectives of a regime by their names. -/
def named (mode : NullMode) : List (String × Junction) :=
  [("AND", if mode = .codd then and3 else and), ("OR", if mode = .codd then or3 else or),
    ("AND3", and3), ("OR3", or3)]

/-- Some argument has the decisive truth value, and none before it fails. -/
def Decided (j : Junction) (outcomes : List (Except Failure Value)) : Prop :=
  ∃ (before : List Value) (v : Value) (after : List (Except Failure Value)),
    outcomes = before.map .ok ++ .ok v :: after ∧ j.truth v = j.decisive

/-- What a connective comes to when its arguments come to some outcomes: the decisive truth value if
one of them decides, else the first failure, else what the rule says of the values. -/
structure Settled (j : Junction) (outcomes : List (Except Failure Value))
    (result : Except Failure Value) : Prop where
  decided : j.Decided outcomes → result = .ok j.decisive.toValue
  failed : ∀ f, ¬ j.Decided outcomes → FirstFailure f outcomes → result = .error f
  eager : ∀ vs, outcomes = vs.map .ok → result = j.rule vs

section
variable {j : Junction} {outcomes : List (Except Failure Value)} {vs : List Value}

theorem decided_of_mem {v : Value} (hv : v ∈ vs) (htruth : j.truth v = j.decisive)
    (after : List (Except Failure Value)) : j.Decided (vs.map .ok ++ after) := by
  obtain ⟨before, rest, rfl⟩ := List.append_of_mem hv
  exact ⟨before, v, rest.map .ok ++ after, by simp, htruth⟩

/-- Without a failure all the outcomes are values. -/
theorem values_or_firstFailure (outcomes : List (Except Failure Value)) :
    (∃ vs : List Value, outcomes = vs.map .ok) ∨ ∃ f, FirstFailure f outcomes := by
  induction outcomes with
  | nil => exact .inl ⟨[], rfl⟩
  | cons outcome outcomes ih =>
    cases outcome with
    | error f => exact .inr ⟨f, [], outcomes, rfl⟩
    | ok v =>
      rcases ih with ⟨vs, rfl⟩ | ⟨f, before, after, rfl⟩
      · exact .inl ⟨v :: vs, rfl⟩
      · exact .inr ⟨f, v :: before, after, rfl⟩

/-- The outcomes of the arguments leave no choice. -/
theorem Settled.unique {result result' : Except Failure Value} (h : j.Settled outcomes result)
    (h' : j.Settled outcomes result') : result = result' := by
  by_cases hdecided : j.Decided outcomes
  · rw [h.decided hdecided, h'.decided hdecided]
  · rcases values_or_firstFailure outcomes with ⟨vs, hvs⟩ | ⟨f, hf⟩
    · rw [h.eager vs hvs, h'.eager vs hvs]
    · rw [h.failed f hdecided hf, h'.failed f hdecided hf]

end

end Junction

/-- What a conditional comes to when its condition and its branches come to some outcomes: the
failure of the condition, or the outcome of the branch that the rule chooses by its value. -/
structure Chosen (condition yes no result : Except Failure Value) : Prop where
  failed : ∀ f, condition = .error f → result = .error f
  chosen : ∀ v, condition = .ok v → ∃ first : Bool,
    (∀ a b, Logic.choose v a b = .ok (if first then a else b)) ∧ result = if first then yes else no

namespace Connective

/-- A connective is decided as a rule of logic is, and comes to what that says of the values. -/
structure Realizes (c : Connective) (j : Junction) : Prop where
  decides : ∀ v, c.decides v = true ↔ j.truth v = j.decisive
  decided : ∀ vs, ∀ v ∈ vs, c.decides v = true → c.value vs = j.decisive.toValue
  rule : ∀ vs, j.rule vs = .ok (c.value vs)

theorem realizes_and : and.Realizes .and where
  decides v := by
    change (!v.toBoolean) = true ↔ Truth.ofBool v.toBoolean = .no
    cases v.toBoolean <;> decide
  decided _ v hv hdecides :=
    congrArg Value.bool (List.all_eq_false.2 ⟨v, hv, by simpa [and] using hdecides⟩)
  rule _ := rfl

theorem realizes_or : or.Realizes .or where
  decides v := by
    change v.toBoolean = true ↔ Truth.ofBool v.toBoolean = .yes
    cases v.toBoolean <;> decide
  decided _ v hv hdecides := congrArg Value.bool (List.any_eq_true.2 ⟨v, hv, hdecides⟩)
  rule _ := rfl

theorem realizes_and3 : (and3 (·.truth true)).Realizes .and3 where
  decides _ := beq_iff_eq
  decided _ v hv hdecides := congrArg Truth.toValue
    (Truth.all_of_mem (List.mem_map.2 ⟨v, hv, beq_iff_eq.1 hdecides⟩))
  rule _ := rfl

theorem realizes_or3 : (or3 (·.truth true)).Realizes .or3 where
  decides _ := beq_iff_eq
  decided _ v hv hdecides := congrArg Truth.toValue
    (Truth.any_of_mem (List.mem_map.2 ⟨v, hv, beq_iff_eq.1 hdecides⟩))
  rule _ := rfl

end Connective

namespace Evaluator

/-! ## Arguments up to the one that settles the result -/

section
variable {eval : Expr → Run Value} {decides : Value → Bool} {es : List Expr}

theorem valuesUpTo_cons_ok {e : Expr} {v : Value} (h : (eval e).outcome = .ok v) :
    (valuesUpTo eval decides (e :: es)).outcome =
      if decides v then .ok [v] else (v :: ·) <$> (valuesUpTo eval decides es).outcome := by
  rw [valuesUpTo, Run.bind_outcome_of_ok h]
  split
  · rfl
  · rw [Run.bind_outcome]
    cases (valuesUpTo eval decides es).outcome <;> rfl

/-- The arguments are evaluated no further than to the first that decides. -/
theorem valuesUpTo_decided {before : List Value} {v : Value} {after : List (Except Failure Value)}
    (h : es.map (fun e => (eval e).outcome) = before.map .ok ++ .ok v :: after)
    (hv : decides v = true) :
    ∃ vs, (valuesUpTo eval decides es).outcome = .ok vs ∧ ∃ w ∈ vs, decides w = true := by
  induction before generalizing es with
  | nil =>
    obtain ⟨e, es, rfl, he, -⟩ := List.map_eq_cons_iff.1 h
    exact ⟨[v], by rw [valuesUpTo_cons_ok he, if_pos hv], v, List.mem_singleton_self v, hv⟩
  | cons u before ih =>
    obtain ⟨e, es, rfl, he, hes⟩ := List.map_eq_cons_iff.1 h
    rw [valuesUpTo_cons_ok he]
    by_cases hu : decides u = true
    · exact ⟨[u], if_pos hu, u, List.mem_singleton_self u, hu⟩
    · obtain ⟨vs, hvs, w, hw, hdecides⟩ := ih hes
      rw [if_neg hu, hvs]
      exact ⟨u :: vs, rfl, w, List.mem_cons_of_mem u hw, hdecides⟩

/-- Arguments that do not decide are evaluated, and then those behind them. -/
theorem valuesUpTo_append {vs : List Value} (h : es.map (fun e => (eval e).outcome) = vs.map .ok)
    (hvs : ∀ v ∈ vs, decides v = false) (es' : List Expr) :
    (valuesUpTo eval decides (es ++ es')).outcome =
      (vs ++ ·) <$> (valuesUpTo eval decides es').outcome := by
  induction vs generalizing es with
  | nil =>
    rw [List.map_eq_nil_iff.1 h, List.nil_append]
    cases (valuesUpTo eval decides es').outcome <;> rfl
  | cons v vs ih =>
    obtain ⟨e, es, rfl, he, hes⟩ := List.map_eq_cons_iff.1 h
    have hv : ¬ decides v = true := by simp [hvs v List.mem_cons_self]
    rw [List.cons_append, valuesUpTo_cons_ok he, if_neg hv,
      ih hes fun w hw => hvs w (List.mem_cons_of_mem v hw)]
    cases (valuesUpTo eval decides es').outcome <;> rfl

end

section
variable {c : Connective} {j : Junction} {args : List Expr}

theorem outcome_of_decided (hc : c.Realizes j) {eval : Expr → Run Value}
    (h : j.Decided (args.map fun e => (eval e).outcome)) :
    (valuesUpTo eval c.decides args >>= fun vs => .done (c.value vs)).outcome =
      .ok j.decisive.toValue := by
  obtain ⟨before, v, after, hargs, hv⟩ := h
  obtain ⟨vs, hvs, w, hw, hdecides⟩ := valuesUpTo_decided hargs ((hc.decides v).2 hv)
  rw [Run.bind_outcome_of_ok hvs, ← hc.decided vs w hw hdecides]
  rfl

theorem outcome_of_firstFailure (hc : c.Realizes j) {eval : Expr → Run Value} {f : Failure}
    (h : FirstFailure f (args.map fun e => (eval e).outcome))
    (hnot : ¬ j.Decided (args.map fun e => (eval e).outcome)) :
    (valuesUpTo eval c.decides args >>= fun vs => .done (c.value vs)).outcome = .error f := by
  obtain ⟨before, after, hargs⟩ := h
  rw [hargs] at hnot
  have hbefore : ∀ v ∈ before, c.decides v = false := by
    intro v hv
    by_contra hdecides
    rw [Bool.not_eq_false, hc.decides] at hdecides
    exact hnot (Junction.decided_of_mem hv hdecides _)
  obtain ⟨es, es', rfl, hes, hes'⟩ := List.map_eq_append_iff.1 hargs
  obtain ⟨e, rest, rfl, he, -⟩ := List.map_eq_cons_iff.1 hes'
  have hvalues := valuesUpTo_append hes hbefore (e :: rest)
  rw [valuesUpTo, Run.bind_outcome_of_error he] at hvalues
  exact Run.bind_outcome_of_error hvalues _

/-- Without a failure the values up to one that decides tell as much as all of them. -/
theorem outcome_of_values (hc : c.Realizes j) {eval : Expr → Run Value} {vs : List Value}
    (h : args.map (fun e => (eval e).outcome) = vs.map .ok) :
    (valuesUpTo eval c.decides args >>= fun vs => .done (c.value vs)).outcome = j.rule vs := by
  rw [hc.rule]
  by_cases hdecides : ∃ v ∈ vs, c.decides v = true
  · obtain ⟨v, hv, hdecides⟩ := hdecides
    have hdecided : j.Decided (vs.map .ok ++ []) :=
      Junction.decided_of_mem hv ((hc.decides v).1 hdecides) []
    rw [List.append_nil, ← h] at hdecided
    rw [outcome_of_decided hc hdecided, hc.decided vs v hv hdecides]
  · have hvalues := valuesUpTo_append h (by simpa using hdecides) []
    rw [List.append_nil, valuesUpTo] at hvalues
    rw [Run.bind_outcome_of_ok (hvalues.trans (congrArg Except.ok (List.append_nil vs)))]
    rfl

/-- A connective that stops at the first argument that decides comes to what its rule says. -/
theorem settled_valuesUpTo (hc : c.Realizes j) (eval : Expr → Run Value) (args : List Expr) :
    j.Settled (args.map fun e => (eval e).outcome)
      (valuesUpTo eval c.decides args >>= fun vs => .done (c.value vs)).outcome where
  decided := outcome_of_decided hc
  failed _ hnot hfirst := outcome_of_firstFailure hc hfirst hnot
  eager _ hvs := outcome_of_values hc hvs

end

/-! ## Calls of connectives -/

section
variable {ev : Evaluator} {o : Operator} {j : Junction} {id : String}

/-- The connectives of a regime with their rules. -/
theorem exists_realizes (hempty : ev.emptyTextIsAbsent = true) (hlazy : o.isLazy = true)
    (h : (o.id, j) ∈ Junction.named ev.mode) :
    ∃ c, ev.connective? o = some c ∧ c.Realizes j := by
  have htruth : ev.truth = (·.truth true) := by
    funext v
    rw [truth, hempty]
  have hcodd : ev.isCodd = true ↔ ev.mode = .codd := beq_iff_eq
  rw [connective?, hlazy, htruth]
  simp only [Junction.named, List.mem_cons, Prod.mk.injEq, List.not_mem_nil, or_false] at h
  rcases h with ⟨hid, rfl⟩ | ⟨hid, rfl⟩ | ⟨hid, rfl⟩ | ⟨hid, rfl⟩
  · refine ⟨if ev.isCodd then .and3 (·.truth true) else .and, by simp [hid], ?_⟩
    simp only [hcodd]
    split
    · exact Connective.realizes_and3
    · exact Connective.realizes_and
  · refine ⟨if ev.isCodd then .or3 (·.truth true) else .or, by simp [hid], ?_⟩
    simp only [hcodd]
    split
    · exact Connective.realizes_or3
    · exact Connective.realizes_or
  · exact ⟨.and3 (·.truth true), by simp [hid], Connective.realizes_and3⟩
  · exact ⟨.or3 (·.truth true), by simp [hid], Connective.realizes_or3⟩

end

section
variable {now : DateTime} {mode : NullMode} {r : Record} {n : Nat} {name : String}

/-- A call of a connective is settled by what its arguments come to. -/
theorem settled_call {id : String} {j : Junction} (hj : (id, j) ∈ Junction.named mode)
    (hname : Text.upper name = id) (args : List Expr) :
    let ev : Evaluator := ⟨.builtIn now, mode, true⟩
    j.Settled (args.map fun e => (ev.evalWithin r n e).outcome)
      (ev.evalWithin r (n + 1) (.call name args)).outcome := by
  intro ev
  have hid : id ∈ (Junction.named mode).map (·.1) := List.mem_map_of_mem hj
  obtain ⟨o, ho, rfl, hlazy, hargs⟩ := Registry.exists_connective now hid
  obtain ⟨c, hc, hrealizes⟩ := exists_realizes (rfl : ev.emptyTextIsAbsent = true) hlazy hj
  have hresolve : ev.registry.resolve? name = some o := Registry.resolve?_of_upper ho hname
  rw [evalWithin, evalStep, evalCall_lazy hresolve hlazy (lazy?_connective hc),
    if_pos (hargs args.length)]
  exact settled_valuesUpTo hrealizes _ args

/-! ## Conditionals -/

theorem toBoolean_of_missing3 {v : Value} (h : missing3 v = true) : v.toBoolean = false := by
  unfold missing3 at h
  cases v with
  | unknown => rfl
  | _ => simp_all [Value.isUnknown, Value.toBoolean]

/-- A condition holds just if the rule of the conditional takes it for true. -/
theorem holds_eq_toBoolean {ev : Evaluator} (h : ev.emptyTextIsAbsent = true) (v : Value) :
    ev.holds v = v.toBoolean := by
  unfold holds
  split
  · rw [truth, h, Value.truth]
    change ((if missing3 v then Truth.unknown else .ofBool v.toBoolean) == .yes) = v.toBoolean
    split
    next hmissing => rw [toBoolean_of_missing3 hmissing]; rfl
    · cases v.toBoolean <;> rfl
  · rfl

theorem evalCall_if {eval : Expr → Run Value} (hname : Text.upper name = "IF") (args : List Expr) :
    let ev : Evaluator := ⟨.builtIn now, mode, true⟩
    ev.evalCall eval name args =
      if 2 ≤ args.length ∧ args.length ≤ 3 then ev.chooseBranch eval args
      else .fail (.arity name "2 to 3" args.length) := by
  intro ev
  have ho : ev.registry.resolve? name = some Logic.connectives[4] :=
    Registry.resolve?_connective (List.getElem_mem _) hname
  have hrun : ev.lazy? Logic.connectives[4].id = some ev.chooseBranch := rfl
  have hargs : Logic.connectives[4].accepts args.length = true ↔
      2 ≤ args.length ∧ args.length ≤ 3 := by
    change (decide (2 ≤ (args.length : Int)) && decide ((args.length : Int) ≤ 3)) = true ↔ _
    rw [Bool.and_eq_true, decide_eq_true_iff, decide_eq_true_iff]
    omega
  rw [evalCall_lazy ho rfl hrun]
  simp only [hargs]
  rfl

/-- A conditional evaluates its condition and then the branch that its rule would choose. -/
theorem chosen_bind (ev : Evaluator) (h : ev.emptyTextIsAbsent = true)
    (condition yes no : Run Value) :
    Chosen condition.outcome yes.outcome no.outcome
      (condition >>= fun v => if ev.holds v then yes else no).outcome where
  failed f hf := Run.bind_outcome_of_error hf _
  chosen v hv := by
    refine ⟨v.toBoolean, fun a b => rfl, ?_⟩
    rw [Run.bind_outcome_of_ok hv, holds_eq_toBoolean h]
    cases v.toBoolean <;> rfl

theorem chosen_call (hname : Text.upper name = "IF") (condition yes no : Expr) :
    let ev : Evaluator := ⟨.builtIn now, mode, true⟩
    let outcome (e : Expr) := (ev.evalWithin r n e).outcome
    let call (args : List Expr) := (ev.evalWithin r (n + 1) (.call name args)).outcome
    Chosen (outcome condition) (outcome yes) (.ok .null) (call [condition, yes]) ∧
      Chosen (outcome condition) (outcome yes) (outcome no) (call [condition, yes, no]) := by
  intro ev outcome call
  have hcall (args : List Expr) (hargs : 2 ≤ args.length ∧ args.length ≤ 3) :
      call args = (ev.chooseBranch (ev.evalWithin r n) args).outcome := by
    change (ev.evalCall (ev.evalWithin r n) name args).outcome = _
    rw [evalCall_if hname, if_pos hargs]
  rw [hcall [condition, yes] (by simp), hcall [condition, yes, no] (by simp)]
  exact ⟨chosen_bind ev rfl _ (ev.evalWithin r n yes) (.done .null),
    chosen_bind ev rfl _ (ev.evalWithin r n yes) (ev.evalWithin r n no)⟩

end

/--
Short circuits agree with the rules, in both regimes and however deep the call stands. A connective
comes to what its arguments settle: the decisive truth value if one of them decides before any
fails, else the first failure, else what its rule says of the values. A conditional fails as its
condition does and else comes to the branch that its rule would choose, whatever the other branch
is; without the second branch that is nothing. It takes two or three arguments.
-/
theorem short_circuit_eq_eager (now : DateTime) (mode : NullMode) (r : Record) (n : Nat) :
    let ev : Evaluator := ⟨.builtIn now, mode, true⟩
    let outcome (e : Expr) := (ev.evalWithin r n e).outcome
    let call (name : String) (args : List Expr) :=
      (ev.evalWithin r (n + 1) (.call name args)).outcome
    (∀ id j, (id, j) ∈ Junction.named mode → ∀ name, Text.upper name = id → ∀ args,
      j.Settled (args.map outcome) (call name args)) ∧
    ∀ name, Text.upper name = "IF" →
      (∀ condition yes no,
        Chosen (outcome condition) (outcome yes) (.ok .null) (call name [condition, yes]) ∧
        Chosen (outcome condition) (outcome yes) (outcome no) (call name [condition, yes, no])) ∧
      ∀ args, ¬(2 ≤ args.length ∧ args.length ≤ 3) →
        call name args = .error (.arity name "2 to 3" args.length) := by
  intro ev outcome call
  refine ⟨fun id j hj name hname args => settled_call hj hname args, fun name hname =>
    ⟨chosen_call hname, fun args hargs => ?_⟩⟩
  change (ev.evalCall (ev.evalWithin r n) name args).outcome = _
  rw [evalCall_if hname, if_neg hargs]
  rfl

/-- What is true decides a disjunction behind what is unknown, but not behind a failure. -/
theorem short_circuit_eq_eager_unknown :
    let ev : Evaluator := ⟨.builtIn Registry.epoch, .codd, true⟩
    let call (name : String) (args : List Expr) := (ev.evalWithin [] 3 (.call name args)).outcome
    let failing : Expr := .unary (.other "?") (.literal .null)
    let decisive : Expr := .literal (.bool true)
    ("OR", Junction.or3) ∈ Junction.named .codd ∧ Text.upper "OR" = "OR" ∧
      call "OR" [.literal .unknown, decisive, failing] = .ok (.bool true) ∧
      call "OR" [.literal .unknown, failing, decisive] = .error (.unknownUnary "?") ∧
      call "OR" [.literal .unknown, .literal .null] = .ok .unknown ∧
      Text.upper "IF" = "IF" ∧
      call "IF" [.literal .unknown, failing] = .ok .null ∧
      call "IF" [failing, decisive] = .error (.unknownUnary "?") ∧
      call "IF" [failing] = .error (.arity "IF" "2 to 3" 1) := by
  intro ev call failing decisive
  have hor : ("OR", Junction.or3) ∈ Junction.named .codd := by simp [Junction.named]
  have hname : Text.upper "OR" = "OR" := Text.upper_of_isBeforeSmall (by decide)
  have hif : Text.upper "IF" = "IF" := Text.upper_of_isBeforeSmall (by decide)
  obtain ⟨hsettled, hchosen⟩ := short_circuit_eq_eager Registry.epoch .codd [] 2
  obtain ⟨hbranches, harity⟩ := hchosen "IF" hif
  have hsettled := hsettled "OR" .or3 hor "OR" hname
  have hfirst : FirstFailure (.unknownUnary "?")
      [.ok .unknown, .error (.unknownUnary "?"), .ok (.bool true)] :=
    ⟨[.unknown], [.ok (.bool true)], rfl⟩
  have hnot : ¬ Junction.or3.Decided
      [.ok .unknown, .error (.unknownUnary "?"), .ok (.bool true)] := by
    rintro ⟨_ | ⟨u, _ | ⟨w, before⟩⟩, v, after, h, hv⟩
    · cases h
      cases hv
    · cases h
    · cases h
  refine ⟨hor, hname, ?_, (hsettled _).failed _ hnot hfirst,
    (hsettled _).eager [.unknown, .null] rfl, hif, ?_,
    (hbranches failing decisive failing).1.failed _ rfl, harity [failing] (by decide)⟩
  · exact (hsettled _).decided ⟨[.unknown], .bool true, [.error (.unknownUnary "?")], rfl, rfl⟩
  · obtain ⟨first, hpick, hresult⟩ :=
      (hbranches (.literal .unknown) failing failing).1.chosen .unknown rfl
    cases first with
    | true => cases hpick .null .unknown
    | false => exact hresult

end Evaluator

end RecordCalc
