import RecordCalc.Proofs.Evaluation.Dispatch
import RecordCalc.Proofs.Evaluation.Exactness
import RecordCalc.Proofs.Evaluation.Presence
import RecordCalc.Proofs.Operator.Faults
import RecordCalc.Report

/-
  Where the failures of an evaluation come from. Whatever the registry, an evaluation fails by
  itself in few ways, and otherwise as the application of a rule does (`raised_of_eval`). An
  application in the Codd regime never fails for a divisor of zero, so neither does an evaluation;
  and absence is contained: a value of arithmetic is a value of operands that are all there
  (`eval_contained`). The code of such a failure is another matter, since a rule may give up with a
  report of its own, and what it states passes on unchanged (`apply_outcome_reported`).
-/

namespace RecordCalc

open Calendar (DateTime)

/-- Some rule of the registry gives up with the failure. -/
def Registry.GivesUp (R : Registry) (f : Failure) : Prop :=
  ∃ o ∈ R.operators, ∃ args, o.rule args = .error f

theorem Registry.not_givesUp_builtIn (now : DateTime) (report : Report) :
    ¬(builtIn now).GivesUp (.reported report) := by
  rintro ⟨o, ho, args, hrule⟩
  rw [operators_builtIn] at ho
  exact isReportless_builtIn now o ho args report hrule

namespace Evaluator

/-! ## Failures -/

/-- The failures that an evaluation can come to: its own, and those of the rules that it applies. -/
inductive Raised (ev : Evaluator) : Failure → Prop
  | notAnExpression (kindName : String) : Raised ev (.notAnExpression kindName)
  | unknownBinary (symbol : String) : Raised ev (.unknownBinary symbol)
  | unknownUnary (symbol : String) : Raised ev (.unknownUnary symbol)
  | unknownFunction (name : String) : Raised ev (.unknownFunction name)
  | arity (name expected : String) (received : Nat) : Raised ev (.arity name expected received)
  | operatorNotFound (id : String) : Raised ev (.operatorNotFound id)
  | nestingTooDeep : Raised ev .nestingTooDeep
  | fault (f : Fault) : Raised ev (.fault f)
  | rule {o : Operator} {args : List Value} {f : Failure} : o ∈ ev.registry.operators →
      (ev.apply o args).outcome = .error f → Raised ev f

/-- A run fails only as an evaluation can. -/
def Raises {α : Type} (ev : Evaluator) (run : Run α) : Prop :=
  ∀ f, run.outcome = .error f → ev.Raised f

section
variable {α β : Type} {ev : Evaluator} {o : Operator} {r : Record} {eval : Expr → Run Value}
  {args : List Expr}

theorem raises_done (a : α) : ev.Raises (Run.done a) := fun _ h => nomatch h

theorem raises_fail {f : Failure} (h : ev.Raised f) : ev.Raises (Run.fail f : Run α) := by
  rintro _ ⟨⟩
  exact h

theorem raises_ofFaulty (x : Except Fault α) : ev.Raises (Run.ofFaulty x) := by
  cases x with
  | ok a => exact raises_done a
  | error f => exact raises_fail (.fault f)

theorem Raises.bind {run : Run α} {f : α → Run β} (h : ev.Raises run)
    (hf : ∀ a, ev.Raises (f a)) : ev.Raises (run >>= f) := by
  intro e he
  rcases Run.bind_outcome_error_iff.1 he with he | ⟨a, -, he⟩
  · exact h e he
  · exact hf a e he

theorem Raises.ite {c : Prop} [Decidable c] {run run' : Run α} (h : ev.Raises run)
    (h' : ev.Raises run') : ev.Raises (if c then run else run') := by
  split
  · exact h
  · exact h'

/-! ## Applying operators -/

theorem raises_apply (ho : o ∈ ev.registry.operators) (vs : List Value) :
    ev.Raises (ev.apply o vs) :=
  fun _ h => .rule ho h

theorem raises_arithmetic (ho : o ∈ ev.registry.operators) (a b : Value) :
    ev.Raises (ev.arithmetic o a b) := by
  unfold arithmetic
  split
  · split
    · exact raises_done _
    · exact raises_done _
    · exact raises_apply ho _
  · exact raises_apply ho _

theorem raises_comparison (ho : o ∈ ev.registry.operators) (a b : Value) :
    ev.Raises (ev.comparison o a b) :=
  .ite (raises_done _) (raises_apply ho _)

/-- Going on with an operator that is looked up. -/
theorem raises_get {id : String} {f : Operator → Run α}
    (hf : ∀ o ∈ ev.registry.operators, ev.Raises (f o)) :
    ev.Raises (Run.ofExcept (ev.registry.get id) >>= f) := by
  unfold Registry.get
  cases hfind : ev.registry.find? id with
  | none => exact raises_fail (.operatorNotFound id)
  | some o => exact hf o (List.mem_of_find?_eq_some hfind)

theorem raises_applyBinary (op : BinaryOp) (a b : Value) : ev.Raises (ev.applyBinary op a b) := by
  unfold applyBinary
  split
  · exact raises_fail (.unknownBinary _)
  · exact raises_get fun o ho =>
      .ite (raises_arithmetic ho a b) (.ite (raises_comparison ho a b) (raises_apply ho _))

theorem raises_applyUnary (op : UnaryOp) (v : Value) : ev.Raises (ev.applyUnary op v) := by
  cases op with
  | negate =>
    unfold applyUnary
    dsimp only
    split
    · split
      · exact raises_done _
      · exact raises_get fun o ho => raises_apply ho _
    · exact raises_get fun o ho => raises_apply ho _
  | plus => exact raises_done _
  | not => exact .ite (raises_done _) (raises_get fun o ho => raises_apply ho _)
  | other symbol => exact raises_fail (.unknownUnary symbol)

theorem raises_applyCall (ho : o ∈ ev.registry.operators) (vs : List Value) :
    ev.Raises (ev.applyCall o vs) := by
  unfold applyCall
  split
  · exact raises_arithmetic ho _ _
  · split
    · split
      · exact raises_comparison ho _ _
      · exact raises_fail (.fault _)
    · split
      · split
        · exact raises_done _
        · exact raises_fail (.fault _)
      · exact raises_apply ho _

/-! ## Expressions -/

theorem raises_conclude (ho : o ∈ ev.registry.operators) (vs : List Value) :
    ev.Raises (ev.conclude o vs) := by
  unfold conclude
  split
  · exact raises_done _
  · exact raises_applyCall ho vs

theorem raises_valuesUpTo (h : ∀ e, ev.Raises (eval e)) (decides : Value → Bool) :
    ev.Raises (valuesUpTo eval decides args) := by
  induction args with
  | nil => exact raises_done _
  | cons e es ih =>
    exact (h e).bind fun v => .ite (raises_done _) (ih.bind fun vs => raises_done _)

theorem raises_chooseBranch (h : ∀ e, ev.Raises (eval e)) :
    ev.Raises (ev.chooseBranch eval args) := by
  unfold chooseBranch
  split
  · refine (h _).bind fun v => .ite ?_ ?_
    · split
      · exact h _
      · exact raises_fail (.fault _)
    · split
      · exact h _
      · exact raises_done _
  · exact raises_fail (.fault _)

theorem raises_evalCall (h : ∀ e, ev.Raises (eval e)) (name : String) :
    ev.Raises (ev.evalCall eval name args) := by
  cases hresolve : ev.registry.resolve? name with
  | none =>
    rw [evalCall_unknown hresolve]
    exact raises_fail (.unknownFunction name)
  | some o =>
    cases hargs : o.accepts args.length with
    | false =>
      rw [evalCall_arity hresolve hargs]
      exact raises_fail (.arity ..)
    | true =>
      obtain ⟨id, -, hfind⟩ := Option.bind_eq_some_iff.1 hresolve
      have ho : o ∈ ev.registry.operators := List.mem_of_find?_eq_some hfind
      rw [evalCall_eq hresolve hargs]
      exact .ite (raises_chooseBranch h)
        ((raises_valuesUpTo h _).bind fun vs => raises_conclude ho vs)

theorem raises_evalStep (h : ∀ e, ev.Raises (eval e)) (e : Expr) :
    ev.Raises (ev.evalStep r eval e) := by
  cases e with
  | literal v => exact raises_done v
  | field name => exact raises_ofFaulty _
  | call name args => exact raises_evalCall h name
  | binary op left right =>
    exact (h left).bind fun a => (h right).bind fun b => raises_applyBinary op a b
  | unary op e => exact (h e).bind fun v => raises_applyUnary op v
  | bare v => exact raises_fail (.notAnExpression _)

theorem raises_evalWithin (n : Nat) (e : Expr) : ev.Raises (ev.evalWithin r n e) := by
  induction n generalizing e with
  | zero => exact raises_fail .nestingTooDeep
  | succ n ih => exact raises_evalStep ih e

/-- An evaluation fails by itself or as the application of a rule of its registry does. -/
theorem raised_of_eval {e : Expr} {f : Failure} (h : (ev.eval r e).outcome = .error f) :
    ev.Raised f :=
  raises_evalWithin levelLimit e f h

end

/-! ## Divisors of zero -/

/-- A kind of failure has its code to itself, but for failures that state their code. -/
theorem isKind_or_reported {f : Failure}
    (h : f.report?.map (·.code) = some FailureKind.divisionByZero.code) :
    f.isKind .divisionByZero = true ∨ ∃ report, f = .reported report := by
  cases f with
  | reported report => exact .inr ⟨report, rfl⟩
  | divisionByZero id => exact .inl rfl
  | _ =>
    exfalso
    revert h
    simp [Failure.report?, Failure.kind?, FailureKind.code]

theorem rule_of_guarded_reported {o : Operator} {x : Except Failure Value} {report : Report}
    (h : Run.guarded o x = .error (.reported report)) : x = .error (.reported report) := by
  unfold Run.guarded at h
  split at h
  · split at h <;> cases h
  · exact h

section
variable {ev : Evaluator} {o : Operator} {args : List Value} {f : Failure}

/-- An application in the Codd regime fails as its rule does, but for no divisor of zero. -/
theorem guarded_of_apply (hcodd : ev.mode = .codd) (h : (ev.apply o args).outcome = .error f) :
    Run.guarded o (o.rule args) = .error f ∧ f.isKind .divisionByZero = false := by
  rw [apply_eq_onceOn] at h
  have h : ev.settled (Run.guarded o (o.rule args)) = .error f := h
  cases hguarded : Run.guarded o (o.rule args) with
  | ok v =>
    rw [hguarded] at h
    cases h
  | error e =>
    rw [hguarded] at h
    simp only [settled, isCodd_iff.2 hcodd, Bool.true_and] at h
    split at h
    · cases h
    next hkind =>
      cases h
      exact ⟨rfl, by simpa using hkind⟩

/-- In the Codd regime no failure of an evaluation is one of a divisor of zero. One that goes by
that code states it, and is what a rule gave up with. -/
theorem Raised.contained (hcodd : ev.mode = .codd) (h : ev.Raised f) :
    f.isKind .divisionByZero = false ∧
      (f.report?.map (·.code) = some FailureKind.divisionByZero.code →
        ∃ report, f = .reported report ∧ ev.registry.GivesUp f) := by
  cases h with
  | rule ho happly =>
    obtain ⟨hguarded, hkind⟩ := guarded_of_apply hcodd happly
    refine ⟨hkind, fun hcode => ?_⟩
    rcases isKind_or_reported hcode with htrue | ⟨report, rfl⟩
    · rw [hkind] at htrue
      cases htrue
    · exact ⟨report, rfl, _, ho, _, rule_of_guarded_reported hguarded⟩
  | _ =>
    refine ⟨rfl, fun hcode => ?_⟩
    rcases isKind_or_reported hcode with htrue | ⟨report, hreport⟩
    · cases htrue
    · cases hreport

/-- A report of its own that a rule gives up with is what the application fails with. -/
theorem apply_outcome_reported {report : Report} (h : o.rule args = .error (.reported report))
    (hkind : (Failure.reported report).isKind .divisionByZero = false) :
    (ev.apply o args).outcome = .error (.reported report) := by
  simp [apply, Run.applyRule, h, Run.guarded, hkind]

end

/-- A report that goes by the code of a divisor of zero and is none of its kind. -/
def borrowedReport : Report := ⟨.evaluation, "x", "DIVISION_BY_ZERO", []⟩

/-- An operator that gives up with that report. -/
def borrower : Operator :=
  { id := "BORROW", displayName := "Borrow", category := .type, inputs := some [], output := .any,
    arity := .fixed 0, rule := fun _ => .error (.reported borrowedReport) }

theorem exists_borrower (mode : NullMode) (emptyText : Bool) (r : Record) :
    ∃ R, Registry.ofList [borrower] = .ok R ∧
      ((⟨R, mode, emptyText⟩ : Evaluator).eval r (.call "BORROW" [])).outcome =
        .error (.reported borrowedReport) := by
  obtain ⟨R, hlist, hresolve⟩ : ∃ R, Registry.ofList [borrower] = .ok R ∧
      R.resolve? "BORROW" = some borrower :=
    Registry.exists_ofList_singleton (Operator.mem_callNames.2 ⟨_, List.mem_cons_self, rfl⟩)
  have hrule : borrower.rule [] = .error (.reported borrowedReport) := rfl
  refine ⟨R, hlist, ?_⟩
  rw [eval, levelLimit, evalWithin_call hresolve rfl rfl .nil]
  exact apply_outcome_reported hrule rfl

/-- Absence is contained in the Codd regime. An expression of arithmetic that is more than a leaf
and has a value other than nothing has all its literals and fields there, each a date or with a
number, and divides by no zero. And with whatever operators, no evaluation fails for a divisor of
zero or under its code, but for a failure that states this code itself and that a rule gave up with;
with the built-in operators none does. -/
theorem eval_contained (emptyText : Bool) (r : Record) :
    (∀ now e v, e.isArithmetic = true → e.isLeaf = false →
      ((codd now emptyText).eval r e).outcome = .ok v → v ≠ .null →
        (codd now emptyText).Present r e) ∧
    (∀ (R : Registry) e f, ((⟨R, .codd, emptyText⟩ : Evaluator).eval r e).outcome = .error f →
      f.isKind .divisionByZero = false ∧
        (f.report?.map (·.code) = some "DIVISION_BY_ZERO" →
          ∃ report, f = .reported report ∧ R.GivesUp f)) ∧
    ∀ now e f, ((codd now emptyText).eval r e).outcome = .error f →
      f.report?.map (·.code) ≠ some "DIVISION_BY_ZERO" := by
  refine ⟨?_, ?_, ?_⟩
  · intro now e v harith hleaf h hv
    exact present_of_operation (registry_codd now emptyText) rfl harith hleaf h hv
  · intro R e f h
    exact (raised_of_eval h).contained rfl
  · intro now e f h hcode
    obtain ⟨report, rfl, hgivesUp⟩ := ((raised_of_eval h).contained rfl).2 hcode
    exact Registry.not_givesUp_builtIn now report hgivesUp

/-- A sum over a quotient is made of what is there; what is no expression fails for that reason; and
a call that fails under the code of a divisor of zero does so since a rule gave up with that
failure. -/
theorem eval_contained_quotient :
    let r : Record := [("a", .int 6), ("b", .int 3)]
    let e : Expr :=
      .binary .add (.binary .divide (.field "a") (.field "b")) (.literal (.int 1))
    (codd Registry.epoch true).Present r e ∧
      (Failure.notAnExpression "NoneType").report?.map (·.code) ≠ some "DIVISION_BY_ZERO" ∧
      (Failure.reported borrowedReport).isKind .divisionByZero = false ∧
      ∃ R, Registry.ofList [borrower] = .ok R ∧ R.GivesUp (.reported borrowedReport) := by
  intro r e
  obtain ⟨hpresent, hfails, hbuiltIn⟩ := eval_contained true r
  have hvalue : ((codd Registry.epoch true).eval r e).outcome = .ok (.int 3) := by
    have hexact : e.exactValue? r.integer? = some 3 := rfl
    have hdepth : e.depth ≤ levelLimit := by
      rw [show e.depth = 3 from rfl, levelLimit]
      omega
    have hreach := reaches_exact (registry_codd Registry.epoch true) hexact levelLimit
    rwa [Reaches, if_pos hdepth] at hreach
  have hbare : ((codd Registry.epoch true).eval r (.bare .null)).outcome =
      .error (.notAnExpression "NoneType") := rfl
  obtain ⟨R, hlist, hfailure⟩ := exists_borrower .codd true r
  obtain ⟨hkind, hborrowed⟩ := hfails R _ _ hfailure
  obtain ⟨-, -, hgivesUp⟩ := hborrowed rfl
  exact ⟨hpresent Registry.epoch e (.int 3) rfl rfl hvalue (by simp [Value.int]),
    hbuiltIn Registry.epoch _ _ hbare, hkind, R, hlist, hgivesUp⟩

/-- What a rule gives up with may be any report that can be stated, so a call can fail under the
code of a divisor of zero. -/
theorem eval_borrower_code :
    (do (← Statement.ofParts .evaluation [.text "x"] [("code", .text "DIVISION_BY_ZERO")]).report) =
        .ok borrowedReport ∧
      ∃ R, Registry.ofList [borrower] = .ok R ∧
        ∃ f, ((⟨R, .codd, true⟩ : Evaluator).eval [] (.call "BORROW" [])).outcome = .error f ∧
          f.report?.map (·.code) = some "DIVISION_BY_ZERO" := by
  obtain ⟨R, hlist, hfailure⟩ := exists_borrower .codd true []
  exact ⟨rfl, R, hlist, _, hfailure, rfl⟩

end Evaluator

end RecordCalc
