import RecordCalc.Proofs.Engine.Session
import RecordCalc.Proofs.Evaluation.Failures
import RecordCalc.Proofs.Formula.Failures

/-
  Engines answer for failures. Every result tells whether there is a value, and says what went wrong
  if not. What an evaluation does not answer with a result is left to the caller as a fault, and
  there are three causes of that (`evaluate_tagged`): an integer with too many digits in the
  formula, a far time in a cell that it reads, and a repetition beyond the memory. The first one is
  enough (`not_evaluate_longInteger`).
-/

namespace RecordCalc

open Calendar (DateTime)

/-- A result tells success or failure in each of its parts alike, and a failure has no value. -/
structure EvaluationResult.IsTagged (r : EvaluationResult) : Prop where
  error : r.error = none ↔ r.success = true
  errorCode : r.errorCode = none ↔ r.success = true
  provenance : r.provenance.isSome = true ↔ r.success = true
  value : r.success = false → r.value = .null

namespace EvaluationResult

theorem isTagged_computed (formula : String) (dependencies : List String) (v : Value) :
    (computed formula dependencies v).IsTagged :=
  ⟨by simp [computed], by simp [computed], by simp [computed], by simp [computed]⟩

theorem isTagged_failed (dependencies : List String) (message code : String) :
    (failed dependencies message code).IsTagged :=
  ⟨by simp [failed], by simp [failed], by simp [failed], fun _ => rfl⟩

end EvaluationResult

/-- Only faults are without a report, too deep a nesting apart. -/
theorem Failure.eq_fault_of_report? {f : Failure} (hreport : f.report? = none)
    (hnesting : f ≠ .nestingTooDeep) : ∃ fault, f = .fault fault := by
  cases f with
  | fault fault => exact ⟨fault, rfl⟩
  | nestingTooDeep => exact absurd rfl hnesting
  | _ => cases hreport

namespace Engine

/-- The faults that an evaluation of a formula leaves to the caller. -/
inductive LeavesToCaller (formula : Value) (record : Record) (uses : List RuleUse) : Fault → Prop
  | longInteger {s : String} {n : Numeral} : formula = .text s →
      .numeral n ∈ (Formula.tokens (Formula.blankEquals s.toList)).located.map (·.token) →
      n.isWhole = true → Fault.digitLimit < n.whole.length →
      LeavesToCaller formula record uses (.tooManyDigitsToRead n.whole.length)
  | evaluation {s : String} {expr : Expr} {f : Fault} : formula = .text s →
      Formula.parse s = .ok expr → Escapes record expr.fields uses f →
      LeavesToCaller formula record uses f

/-- What an evaluation comes to: a result that is tagged, or else a fault for the caller. -/
def Settled (formula : Value) (record : Record) (uses : List RuleUse)
    (outcome : Except Failure EvaluationResult) : Prop :=
  (∃ r, outcome = .ok r ∧ r.IsTagged) ∨
    ∃ f, outcome = .error (.fault f) ∧ LeavesToCaller formula record uses f

section
variable {e : Engine} {ev : Evaluator} {held : List Place} {now : DateTime}

theorem settle_cases (formula : String) (dependencies : List String)
    (outcome : Except Failure Value) :
    (∃ r, (settle formula dependencies outcome).1 = .ok r ∧ r.IsTagged) ∨
      ∃ f, outcome = .error (.fault f) ∧
        (settle formula dependencies outcome).1 = .error (.fault f) := by
  unfold settle
  split
  · exact .inl ⟨_, rfl, EvaluationResult.isTagged_computed _ _ _⟩
  · exact .inl ⟨_, rfl, EvaluationResult.isTagged_failed _ _ _⟩
  · next f hnesting =>
    cases hreport : f.report? with
    | some report => exact .inl ⟨_, rfl, EvaluationResult.isTagged_failed _ _ _⟩
    | none =>
      obtain ⟨fault, rfl⟩ := Failure.eq_fault_of_report? hreport hnesting
      exact .inr ⟨fault, rfl, rfl⟩

/-- A formula that is not even told to be invalid has an integer with too many digits. -/
theorem leavesToCaller_of_ofFormula {formula : Value} {f : Failure}
    (h : Parsed.ofFormula formula = .error f) (record : Record) (uses : List RuleUse) :
    ∃ fault, f = .fault fault ∧ LeavesToCaller formula record uses fault := by
  cases formula with
  | text s =>
    simp only [Parsed.ofFormula, Parsed.ofText] at h
    split at h
    · cases h
    · next failure hparse =>
      cases Formula.failsOnly_parse s failure hparse with
      | syntaxError error => cases h
      | longInteger hmem hwhole hlong =>
        cases h
        exact ⟨_, rfl, .longInteger rfl hmem hwhole hlong⟩
  | _ => cases h

theorem settled_run (hreg : ev.registry = .builtIn now) (s : String) {expr : Expr}
    (hparse : Formula.parse s = .ok expr) (dependencies : List String) (record : Record) :
    Settled (.text s) record (ev.eval record expr).uses (ev.result s dependencies expr record) := by
  rcases settle_cases s dependencies (ev.eval record expr).outcome with hresult | ⟨f, hf, hsettle⟩
  · exact .inl hresult
  · exact .inr ⟨f, hsettle, .evaluation rfl hparse (Evaluator.contained_eval hreg record expr f hf)⟩

theorem Answer.uses_andThen {α β : Type} {a : Answer α} {v : α} (h : a.outcome = .ok v)
    (f : Engine → α → Answer β) : (a.andThen f).uses = a.uses ++ (f a.engine v).uses := by
  obtain ⟨outcome, engine, uses, events, handed⟩ := a
  cases h
  rfl

/-- The rules that an evaluation applied are those of its expression. -/
theorem Ready.uses_evaluate (h : e.Ready ev held) {formula : Value} {p : Parsed}
    (hread : Parsed.ofFormula formula = .ok p) {expr : Expr} (hexpr : p.outcome = .ok expr)
    (record : Record) : (e.evaluate formula record).uses = (ev.eval record expr).uses := by
  have hparse := h.parse formula
  unfold Engine.evaluate
  rw [Answer.uses_andThen (hparse.outcome.trans hread), Engine.evaluateParsed, hexpr]
  change [] ++ (Evaluator.eval (e.parse formula).engine.evaluator record expr).uses = _
  rw [hparse.ready.evaluator, List.nil_append]

/-- A ready engine with the built-in operators settles what it is given. -/
theorem Ready.settled (h : e.Ready ev held) (hreg : ev.registry = .builtIn now) (formula : Value)
    (record : Record) :
    Settled formula record (e.evaluate formula record).uses
      (e.evaluate formula record).outcome := by
  rw [(h.evaluate formula record).outcome]
  cases hread : Parsed.ofFormula formula with
  | error f =>
    obtain ⟨fault, rfl, hleaves⟩ := leavesToCaller_of_ofFormula hread record
      (e.evaluate formula record).uses
    exact .inr ⟨fault, rfl, hleaves⟩
  | ok p =>
    change Settled _ _ _ (ev.resultOf (textOf formula) p record)
    unfold Evaluator.resultOf
    cases hexpr : p.outcome with
    | error message => exact .inl ⟨_, rfl, EvaluationResult.isTagged_failed _ _ _⟩
    | ok expr =>
      obtain ⟨s, rfl, hparse, -⟩ := Parsed.text_of_ofFormula hread hexpr
      rw [h.uses_evaluate hread hexpr]
      exact settled_run hreg s hparse p.dependencies record

theorem exists_chooseMode {registry : Registry} {settings : Settings} {mode : Value}
    {size : Option Int} (h : create registry settings mode size = .ok e) :
    ∃ m, chooseMode settings mode = .ok m := by
  cases hmode : chooseMode settings mode with
  | ok m => exact ⟨m, rfl⟩
  | error f =>
    rw [create, hmode] at h
    cases h

end

/-- At any time in a session an engine with the built-in operators answers an evaluation with a
result, of whatever value as a formula against whatever record, and the result is tagged; unless the
formula has an integer with too many digits, a cell that it reads has a far time, or a text is
repeated beyond the memory. -/
theorem evaluate_tagged {now : DateTime} {settings : Settings} {mode : Value} {size : Option Int}
    {e : Engine} (h : create (.builtIn now) settings mode size = .ok e) (moves : List Move)
    (formula : Value) (record : Record) :
    let a := ((Session.start e).afterAll moves).engine.evaluate formula record
    (∃ r, a.outcome = .ok r ∧ r.IsTagged) ∨
      ∃ f, a.outcome = .error (.fault f) ∧ LeavesToCaller formula record a.uses f := by
  obtain ⟨m, hmode⟩ := exists_chooseMode h
  have hready := Ready.afterAll (s := Session.start e) (ready_create hmode h) moves
  exact hready.settled rfl formula record

/-- What is no text is answered with a result. -/
theorem evaluate_tagged_number :
    ∃ e, create (.builtIn Registry.epoch) ⟨"test", false, .info, false, .codd, true, 1000⟩
        .null none = .ok e ∧
      ∃ r, (e.evaluate (.int 5) []).outcome = .ok r ∧ r.IsTagged := by
  obtain ⟨e, he⟩ : ∃ e, create (.builtIn Registry.epoch)
      ⟨"test", false, .info, false, .codd, true, 1000⟩ .null none = .ok e := ⟨_, rfl⟩
  refine ⟨e, he, ?_⟩
  rcases evaluate_tagged he [] (.int 5) [] with hresult | ⟨f, -, hleaves⟩
  · exact hresult
  · cases hleaves with
    | longInteger htext => cases htext
    | evaluation htext => cases htext

/-- A formula that is an integer with too many digits leaves its fault to the caller. -/
theorem evaluate_longInteger {e : Engine} {ev : Evaluator} {held : List Place}
    (h : e.Ready ev held) {digits : List Char} (hdigits : ∀ c ∈ digits, Text.isDigit c)
    (hlong : Fault.digitLimit < digits.length) (record : Record) :
    (e.evaluate (.text (String.ofList digits)) record).outcome =
      .error (.fault (.tooManyDigitsToRead digits.length)) := by
  rw [(h.evaluate _ record).outcome, Parsed.ofFormula, Parsed.ofText,
    Formula.parse_longInteger hdigits hlong]
  rfl

/-- A formula that is a field whose first observation has a far time leaves the fault to the
caller. -/
theorem evaluate_farTime {e : Engine} {ev : Evaluator} {held : List Place} (h : e.Ready ev held)
    {s name : String} (hparse : Formula.parse s = .ok (.field name)) {record : Record}
    {v : Value} {n : Int} {rest : List (Value × Value)}
    (hraw : Value.observations? (record.get name) = some ((v, .int n) :: rest))
    (hfar : Binary64.ofInt? n = none) :
    (e.evaluate (.text s) record).outcome = .error (.fault .integerTooLarge) := by
  have hresolve : (record.get name).resolveCell = .error .integerTooLarge := by
    rw [Value.resolveCell, hraw]
    change (some <$> Number.floatOfInt n) >>= _ = _
    rw [Number.floatOfInt, hfar]
    rfl
  have heval : (ev.eval record (.field name)).outcome = .error (.fault .integerTooLarge) := by
    change (Run.ofFaulty (record.get name).resolveCell).outcome = _
    rw [hresolve]
    rfl
  rw [(h.evaluate _ record).outcome, Parsed.ofFormula, Parsed.ofText, hparse]
  change (settle s [name] (ev.eval record (.field name)).outcome).1 = _
  rw [heval]
  rfl

/-- The integer of 4301 nines is not answered with a result. -/
theorem not_evaluate_longInteger :
    ∃ e, create (.builtIn Registry.epoch) ⟨"test", false, .info, false, .codd, true, 1000⟩
        .null none = .ok e ∧
      ¬ ∃ r, (e.evaluate (.text (String.ofList (List.replicate 4301 '9'))) []).outcome = .ok r := by
  obtain ⟨e, he⟩ : ∃ e, create (.builtIn Registry.epoch)
      ⟨"test", false, .info, false, .codd, true, 1000⟩ .null none = .ok e := ⟨_, rfl⟩
  refine ⟨e, he, ?_⟩
  rintro ⟨r, hr⟩
  have hdigits : ∀ c ∈ List.replicate 4301 '9', Text.isDigit c = true := by
    intro c hc
    rw [(List.mem_replicate.1 hc).2]
    decide
  have hlong : Fault.digitLimit < (List.replicate 4301 '9').length := by
    rw [List.length_replicate]
    decide
  rw [evaluate_longInteger (ready_create rfl he) hdigits hlong] at hr
  cases hr

end Engine

end RecordCalc
