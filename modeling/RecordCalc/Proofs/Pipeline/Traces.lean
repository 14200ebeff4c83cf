import RecordCalc.Proofs.Pipeline.Laws
import RecordCalc.Proofs.Pipeline.Run

/-
  Whole traces. A trace has the entry of the inputs, the entries of the steps that were reached and
  the entry of the result; its values are the inputs and the results of the steps that did not fail
  (`HasParts`). A pipeline that is cut in two runs as its second part does on the values of its
  first (`hasParts_and_append`).
-/

namespace RecordCalc.Trace

variable {r : Registry} {steps inputs args values vs : List Value} {o : Operator} {t : Trace}

/-- A traced run has an entry for its inputs and those of its steps, and one for its result. -/
theorem run_eq_ok_iff :
    (run r steps inputs).outcome = .ok t ↔
      ∃ first es vs b, inputEntry inputs = .ok first ∧ Recorded r 1 inputs steps es vs b ∧
        close ⟨first :: es, inputs ++ vs⟩ = .ok t := by
  constructor
  · intro h
    obtain ⟨first, hfirst, h⟩ := Run.bind_outcome_ok h
    obtain ⟨u, hu, hclose⟩ := Run.bind_outcome_ok h
    obtain ⟨es, vs, b, hrec, rfl⟩ := runSteps_eq_ok_iff.1 hu
    exact ⟨first, es, vs, b, Run.ofFaulty_outcome_ok hfirst, hrec, Run.ofFaulty_outcome_ok hclose⟩
  · rintro ⟨first, es, vs, b, hfirst, hrec, hclose⟩
    have hsteps : (runSteps r 1 ⟨[first], inputs⟩ steps).outcome =
        .ok ⟨first :: es, inputs ++ vs⟩ := runSteps_eq_ok_iff.2 ⟨es, vs, b, hrec, rfl⟩
    rw [run, hfirst, Run.bind_outcome_of_ok rfl, Run.bind_outcome_of_ok hsteps, hclose]
    rfl

theorem close_eq_ok_iff {entries : List TraceEntry} {values : List Value} :
    close ⟨entries, values⟩ = .ok t ↔
      ∃ text, display (values.getLast?.getD .null) = .ok text ∧
        t = ⟨entries ++ [⟨entries.length, .output, "Result: " ++ text, .null, [],
          values.getLast?.getD .null⟩], values⟩ := by
  rw [close, Outcomes.bind_eq_ok_iff]
  refine exists_congr fun text => and_congr_right fun _ => ?_
  simp [pure, Except.pure, eq_comm, Trace.result]

theorem inputEntry_eq_ok_iff {first : TraceEntry} :
    inputEntry inputs = .ok first ↔
      ∃ texts, inputs.mapM display = .ok texts ∧
        first = ⟨0, .input, "Inputs: [" ++ Text.join ", " texts ++ "]", .null, inputs, .null⟩ := by
  rw [inputEntry, Outcomes.bind_eq_ok_iff]
  refine exists_congr fun texts => and_congr_right fun _ => ?_
  simp [pure, Except.pure, eq_comm]

theorem failed_eq (t : Trace) : t.failed = t.entries.any (·.kind.isError) := rfl

/-- The parts of a trace: the entries of the inputs, of the steps that gave a value, of the step
that failed if one did, and of the result. -/
structure HasParts (steps inputs : List Value) (t : Trace) (first : TraceEntry)
    (answers : List TraceEntry) (error? : Option TraceEntry) (last : TraceEntry) : Prop where
  entries : t.entries = first :: (answers ++ error?.toList) ++ [last]
  first_kind : first.kind = .input
  first_step : first.step = 0
  first_args : first.args = inputs
  /-- The steps are numbered from 1, and each entry names the operator of its step. -/
  numbered : (answers ++ error?.toList).map (·.step) =
    List.range' 1 (answers.length + error?.toList.length)
  operators : (answers ++ error?.toList).map (·.operator) =
    (steps.take (answers.length + error?.toList.length)).map operatorOf
  /-- Only a step that fails ends the run. -/
  complete : error? = none → answers.length = steps.length
  answer_kind : ∀ e ∈ answers, (∃ rule, e.kind = .simplification rule) ∨ e.kind = .evaluation
  error_kind : ∀ e ∈ error?, ∃ text, e.kind = .error text
  last_kind : last.kind = .output
  last_step : last.step = answers.length + error?.toList.length + 1
  last_result : last.result = t.result
  values : t.values = inputs ++ answers.map (·.result)
  result : t.result = t.values.getLast?.getD .null
  failed : t.failed = error?.isSome

theorem isAnswer_iff {kind : EntryKind} :
    kind.IsAnswer ↔ (∃ rule, kind = .simplification rule) ∨ kind = .evaluation := by
  cases kind <;> simp [EntryKind.IsAnswer]

theorem isError_iff {kind : EntryKind} : kind.isError = true ↔ ∃ text, kind = .error text := by
  cases kind <;> simp [EntryKind.isError]

theorem isError_of_isAnswer {kind : EntryKind} (h : kind.IsAnswer) : kind.isError = false := by
  cases kind <;> trivial

/-- The entries between the first and the last decide whether a trace failed. -/
theorem failed_of_entries {first last : TraceEntry} {es : List TraceEntry} {vs values : List Value}
    {n : Nat} {b : Bool} {answers : List TraceEntry} {error? : Option TraceEntry}
    (hfirst : first.kind = .input) (hlast : last.kind = .output)
    (h : HasEntries n steps es vs b answers error?) :
    (Trace.mk (first :: es ++ [last]) values).failed = b := by
  have hends : first.kind.isError = false ∧ last.kind.isError = false := by
    rw [hfirst, hlast]
    exact ⟨rfl, rfl⟩
  have hanswers : answers.any (·.kind.isError) = false :=
    List.any_eq_false.2 fun e he => by simp [isError_of_isAnswer (h.isAnswer e he)]
  have herror : error?.toList.any (·.kind.isError) = b := by
    rw [h.failed]
    cases herror? : error? with
    | none => rfl
    | some e => simp [h.isError e herror?]
  simp only [failed_eq, h.entries, List.cons_append, List.any_cons, List.any_append, List.any_nil,
    hends, hanswers, herror, Bool.false_or, Bool.or_false]

/-- A traced run comes to a trace of these entries and values. -/
theorem exists_of_run (h : (run r steps inputs).outcome = .ok t) :
    ∃ first es vs b last, Recorded r 1 inputs steps es vs b ∧
      first.kind = .input ∧ first.step = 0 ∧ first.args = inputs ∧
      last.kind = .output ∧ last.step = es.length + 1 ∧ last.result = t.result ∧
      t = ⟨first :: es ++ [last], inputs ++ vs⟩ ∧ t.failed = b := by
  obtain ⟨first, es, vs, b, hfirst, hrec, hclose⟩ := run_eq_ok_iff.1 h
  obtain ⟨texts, -, rfl⟩ := inputEntry_eq_ok_iff.1 hfirst
  obtain ⟨text, -, rfl⟩ := close_eq_ok_iff.1 hclose
  obtain ⟨answers, error?, hentries⟩ := hrec.hasEntries
  exact ⟨_, es, vs, b, _, hrec, rfl, rfl, rfl, rfl, rfl, rfl, rfl,
    failed_of_entries rfl rfl hentries⟩

theorem hasParts_run (h : (run r steps inputs).outcome = .ok t) :
    ∃ first answers error? last, HasParts steps inputs t first answers error? last := by
  obtain ⟨first, es, vs, b, last, hrec, hfirst, hstep, hargs, hlast, hnumber, hresult, rfl, hb⟩ :=
    exists_of_run h
  obtain ⟨answers, error?, hes⟩ := hrec.hasEntries
  obtain rfl := hes.entries
  have hlength : (answers ++ error?.toList).length = answers.length + error?.toList.length :=
    List.length_append
  refine ⟨first, answers, error?, last, ?_⟩
  exact {
    entries := rfl
    first_kind := hfirst
    first_step := hstep
    first_args := hargs
    numbered := hlength ▸ hes.numbered
    operators := hlength ▸ hes.operators
    complete := by
      rintro rfl
      simpa using hes.complete hes.failed
    answer_kind := fun e he => isAnswer_iff.1 (hes.isAnswer e he)
    error_kind := fun e he => isError_iff.1 (hes.isError e he)
    last_kind := hlast
    last_step := hlength ▸ hnumber
    last_result := hresult
    values := hes.values ▸ rfl
    result := rfl
    failed := hb.trans hes.failed }

/-- A pipeline cut in two gives what its second part gives on the values of its first. -/
theorem run_append {xs ys : List Value} {t u w : Trace}
    (ht : (run r xs inputs).outcome = .ok t) (hfailed : t.failed = false)
    (hu : (run r (xs ++ ys) inputs).outcome = .ok u) (hw : (run r ys t.values).outcome = .ok w) :
    u.values = w.values ∧ u.result = w.result ∧ u.failed = w.failed := by
  obtain ⟨_, es, vs, b, _, hrec, -, -, -, -, -, -, rfl, rfl⟩ := exists_of_run ht
  obtain ⟨_, _, ws, _, _, hrecu, -, -, -, -, -, -, rfl, rfl⟩ := exists_of_run hu
  obtain ⟨_, _, ws', _, _, hrecw, -, -, -, -, -, -, rfl, rfl⟩ := exists_of_run hw
  rw [hfailed] at hrec
  obtain ⟨later, after, -, rfl, hlater⟩ := hrec.split hrecu
  obtain ⟨rfl, hb⟩ := hlater.renumber hrecw
  refine ⟨?_, ?_, hb⟩
  · exact (List.append_assoc _ _ _).symm
  · simp [Trace.result]

/-! ## Steps on integers -/

/-- A sum that is simplified and one that is evaluated. -/
def adding : List Value :=
  [.step "ADD" [.stepRef 0, .int 0], .step "ADD" [.stepRef 1, .int 3]]

/-- A quotient by zero. -/
def byZero : Value := .step "DIVIDE" [.stepRef 0, .int 0]

theorem prepare_arithmetic {id : String} (ho : o ∈ Arithmetic.operators) (hid : o.id = id)
    (hcount : o.accepts args.length = true) (hargs : Step.resolve ⟨id, args⟩ values = .ok vs) :
    prepare (.builtIn Registry.epoch) (.step id args) values = .ok (o, vs) := by
  have hmem : o ∈ builtInOperators Registry.epoch := by simp [builtInOperators, ho]
  subst hid
  exact prepare_eq_ok_iff.2 ⟨_, ⟨rfl, Registry.get_builtIn hmem, hcount⟩, hargs⟩

theorem recorded_adding : ∃ e e',
    Recorded (.builtIn Registry.epoch) 1 [.int 4] adding [e, e'] [.int 4, .int 7] false ∧
    e.kind = .simplification .identity ∧ e.operator = .text "ADD" ∧ e.args = [.int 4, .int 0] ∧
    e'.kind = .evaluation := by
  have hadd : Arithmetic.operators[0] ∈ Arithmetic.operators := List.getElem_mem _
  have hans : answer Arithmetic.operators[0] [.int 4, .int 0] =
      .ok (.simplification .identity, .int 4) := by
    simp [answer, Operator.simplify?, Operator.byIdentity, Arithmetic.operators, Operator.obeys,
      Value.sameValue_int, bind, Except.bind, pure, Except.pure]
  have hans' : answer Arithmetic.operators[0] [.int 4, .int 3] = .ok (.evaluation, .int 7) := by
    simp [answer, Operator.simplify?, Operator.byIdentity, Operator.byAbsorbing,
      Operator.byIdempotence, Arithmetic.operators, Operator.obeys, Value.sameValue_int, bind,
      Except.bind, pure, Except.pure]
    rfl
  have hstep : (runStep (.builtIn Registry.epoch) 1 (.step "ADD" [.stepRef 0, .int 0])
      [.int 4]).outcome = _ :=
    runStep_eq_iff.2 (.value (prepare_arithmetic hadd rfl rfl rfl) hans rfl)
  have hstep' : (runStep (.builtIn Registry.epoch) 2 (.step "ADD" [.stepRef 1, .int 3])
      [.int 4, .int 4]).outcome = _ :=
    runStep_eq_iff.2 (.value (prepare_arithmetic hadd rfl rfl rfl) hans' rfl)
  exact ⟨_, _, .step hstep (.step hstep' .nil), rfl, rfl, rfl, rfl⟩

/-- The traced run of the sums, whose first entry of a step is a simplification of integers. -/
theorem run_adding : ∃ first e e' last,
    let t : Trace := ⟨[first, e, e', last], [.int 4, .int 4, .int 7]⟩
    (run (.builtIn Registry.epoch) adding [.int 4]).outcome = .ok t ∧ t.failed = false ∧
    first.kind = .input ∧ last.kind = .output ∧ e'.kind = .evaluation ∧
    e.kind = .simplification .identity ∧ e.operator = .text "ADD" ∧ e.args = [.int 4, .int 0] := by
  obtain ⟨e, e', hrec, hkind, hoperator, hargs, hkind'⟩ := recorded_adding
  exact ⟨_, e, e', _, run_eq_ok_iff.2 ⟨_, _, _, _, rfl, hrec, rfl⟩,
    by simp [failed_eq, EntryKind.isError, hkind, hkind'], rfl, rfl, hkind', hkind, hoperator,
    hargs⟩

theorem recorded_byZero (n : Nat) : ∃ e,
    Recorded (.builtIn Registry.epoch) n [.int 4, .int 4, .int 7] [byZero] [e] [] true ∧
    e.kind = .error "Division by zero" := by
  have hdivide : Arithmetic.operators[3] ∈ Arithmetic.operators := List.getElem_mem _
  have hans : answer Arithmetic.operators[3] [.int 4, .int 0] =
      .error (.divisionByZero "DIVIDE") := by
    simp [answer, Operator.simplify?, Operator.byIdentity, Operator.byAbsorbing,
      Operator.byIdempotence, Arithmetic.operators, Operator.obeys, Value.sameValue_int, bind,
      Except.bind, pure, Except.pure]
    rfl
  have hstep : (runStep (.builtIn Registry.epoch) n byZero
      [.int 4, .int 4, .int 7]).outcome = _ :=
    runStep_eq_iff.2 (.unanswered (prepare_arithmetic hdivide rfl rfl rfl) hans rfl)
  exact ⟨_, .failed hstep, rfl⟩

/-- A trace has its parts, and a pipeline cut in two gives what its second part gives on the values
of its first. -/
theorem hasParts_and_append (r : Registry) :
    (∀ steps inputs t, (run r steps inputs).outcome = .ok t →
      ∃ first answers error? last, HasParts steps inputs t first answers error? last) ∧
    ∀ xs ys inputs t u w, (run r xs inputs).outcome = .ok t → t.failed = false →
      (run r (xs ++ ys) inputs).outcome = .ok u → (run r ys t.values).outcome = .ok w →
      u.values = w.values ∧ u.result = w.result ∧ u.failed = w.failed :=
  ⟨fun _ _ _ => hasParts_run, fun _ _ _ _ _ _ => run_append⟩

/-- Two sums, of which one is simplified, and a quotient by zero: cut before the quotient, the
pipeline fails in its second part. -/
theorem hasParts_and_append_byZero :
    ∃ t u w, (run (.builtIn Registry.epoch) adding [.int 4]).outcome = .ok t ∧ t.failed = false ∧
      (run (.builtIn Registry.epoch) (adding ++ [byZero]) [.int 4]).outcome = .ok u ∧
      (run (.builtIn Registry.epoch) [byZero] t.values).outcome = .ok w ∧
      u.entries.map (·.kind) =
        [.input, .simplification .identity, .evaluation, .error "Division by zero", .output] ∧
      (∃ first answers error? last,
        HasParts (adding ++ [byZero]) [.int 4] u first answers error? last) ∧
      u.values = w.values ∧ u.result = w.result ∧ u.failed = w.failed := by
  obtain ⟨hparts, happend⟩ := hasParts_and_append (.builtIn Registry.epoch)
  obtain ⟨_, _, _, _, ht, hfailed, -⟩ := run_adding
  obtain ⟨e, e', hrec, hkind, -, -, hkind'⟩ := recorded_adding
  obtain ⟨later, hlater, hfailure⟩ := recorded_byZero 3
  obtain ⟨alone, halone, -⟩ := recorded_byZero 1
  have hu : (run (.builtIn Registry.epoch) (adding ++ [byZero]) [.int 4]).outcome = _ :=
    run_eq_ok_iff.2 ⟨_, _, _, _, rfl, hrec.append hlater, rfl⟩
  have hw : (run (.builtIn Registry.epoch) [byZero] [.int 4, .int 4, .int 7]).outcome = _ :=
    run_eq_ok_iff.2 ⟨_, _, _, _, rfl, halone, rfl⟩
  exact ⟨_, _, _, ht, hfailed, hu, hw, by simp [hkind, hkind', hfailure], hparts _ _ _ hu,
    happend _ _ _ _ _ _ ht hfailed hu hw⟩

end RecordCalc.Trace
