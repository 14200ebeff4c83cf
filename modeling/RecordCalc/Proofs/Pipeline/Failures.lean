import RecordCalc.Proofs.Pipeline.Escapes

/-
  Failures in traced runs over the built-in operators. A run fails just with a fault that escapes,
  from its inputs or from a step that it reaches (`EscapesRun`, `run_eq_error_iff`); it comes to a
  trace otherwise. A step that it reaches and that cannot be run ends the trace with the one entry
  of an error (`error_of_isRejected`).
-/

namespace RecordCalc.Trace

open Calendar (DateTime)
open Pipeline (Ready)

variable {r : Registry} {now : DateTime} {n : Nat} {raw : Value}
  {steps inputs values vs before after : List Value} {es : List TraceEntry} {e : TraceEntry}
  {o : Operator} {args : List Value} {f : Failure} {g : Fault} {b : Bool} {t : Trace}

/-! ## Faults that escape -/

/-- The faults that escape from a run, from its inputs or from a step that it reaches. -/
inductive EscapesRun (r : Registry) (steps inputs : List Value) : Fault → Prop
  | input : (∃ v ∈ inputs, v.HasLongInteger) → EscapesRun r steps inputs .tooManyDigitsToWrite
  | step {before after vs : List Value} {raw : Value} {es : List TraceEntry} {g : Fault} :
      (∀ v ∈ inputs, ¬ v.HasLongInteger) → steps = before ++ raw :: after →
      Recorded r 1 inputs before es vs false → Escapes r raw (inputs ++ vs) g →
      EscapesRun r steps inputs g

/-- The values that steps gave have been written. -/
theorem Recorded.not_hasLongInteger (h : Recorded r n values steps es vs b) :
    ∀ v ∈ vs, ¬ v.HasLongInteger := by
  induction h with
  | nil => exact List.forall_mem_nil _
  | failed => exact List.forall_mem_nil _
  | step hstep _ ih =>
    refine List.forall_mem_cons.2 ⟨fun hlong => ?_, ih⟩
    cases runStep_eq_iff.1 hstep with
    | value hprep hans htext =>
      rw [(writesUnless_describe _ _ _ _ _).2 ⟨rfl, .inr hlong⟩] at htext
      cases htext

/-- A trace of values that can be written can be closed. -/
theorem exists_close {entries : List TraceEntry} (h : ∀ v ∈ values, ¬ v.HasLongInteger) :
    ∃ t, close ⟨entries, values⟩ = .ok t := by
  have hlast : ¬ (values.getLast?.getD .null).HasLongInteger := by
    cases hv : values.getLast? with
    | none => exact Value.not_hasPart rfl id
    | some v => exact h v (List.mem_of_getLast? hv)
  cases htext : display (values.getLast?.getD .null) with
  | error g => exact absurd ((writesUnless_display _ g).1 htext).2 hlast
  | ok text => exact ⟨_, close_eq_ok_iff.2 ⟨text, htext, rfl⟩⟩

theorem exists_inputEntry (h : ∀ v ∈ inputs, ¬ v.HasLongInteger) :
    ∃ first, inputEntry inputs = .ok first := by
  cases hfirst : inputEntry inputs with
  | error g =>
    obtain ⟨v, hv, hlong⟩ := ((writesUnless_inputEntry inputs g).1 hfirst).2
    exact absurd hlong (h v hv)
  | ok first => exact ⟨first, rfl⟩

theorem not_hasLongInteger_of_inputEntry {first : TraceEntry}
    (h : inputEntry inputs = .ok first) : ∀ v ∈ inputs, ¬ v.HasLongInteger := by
  intro v hv hlong
  rw [(writesUnless_inputEntry inputs _).2 ⟨rfl, v, hv, hlong⟩] at h
  cases h

/-- A traced run over the built-in operators fails just with the faults that escape from it. -/
theorem run_eq_error_iff :
    (run (.builtIn now) steps inputs).outcome = .error f ↔
      ∃ g, f = .fault g ∧ EscapesRun (.builtIn now) steps inputs g := by
  constructor
  · intro h
    cases hfirst : inputEntry inputs with
    | error g =>
      obtain ⟨rfl, hlong⟩ := (writesUnless_inputEntry inputs g).1 hfirst
      rw [run, hfirst] at h
      cases h
      exact ⟨_, rfl, .input hlong⟩
    | ok first =>
      have hinputs := not_hasLongInteger_of_inputEntry hfirst
      rw [run, hfirst, Run.bind_outcome_of_ok rfl, Run.bind_outcome_error_iff] at h
      rcases h with hsteps | ⟨t, hsteps, hclose⟩
      · obtain ⟨before, raw, after, es, vs, hsplit, hrec, hstep⟩ := runSteps_eq_error_iff.1 hsteps
        obtain ⟨g, rfl, hescapes⟩ := runStep_eq_error_iff.1 hstep
        exact ⟨g, rfl, .step hinputs hsplit hrec hescapes⟩
      · -- closing the trace writes its last value, which was written before
        obtain ⟨es, vs, b, hrec, rfl⟩ := runSteps_eq_ok_iff.1 hsteps
        have hvalues : ∀ v ∈ inputs ++ vs, ¬ v.HasLongInteger :=
          List.forall_mem_append.2 ⟨hinputs, hrec.not_hasLongInteger⟩
        obtain ⟨t, ht⟩ : ∃ t, close ⟨first :: es, inputs ++ vs⟩ = .ok t := exists_close hvalues
        have hclosed : (Run.ofFaulty (close ⟨first :: es, inputs ++ vs⟩)).outcome = .error f :=
          hclose
        rw [ht] at hclosed
        cases hclosed
  · rintro ⟨g, rfl, h⟩
    cases h with
    | input hlong =>
      rw [run, (writesUnless_inputEntry inputs _).2 ⟨rfl, hlong⟩]
      rfl
    | step hinputs hsplit hrec hescapes =>
      obtain ⟨first, hfirst⟩ := exists_inputEntry hinputs
      rw [run, hfirst, Run.bind_outcome_of_ok rfl]
      refine Run.bind_outcome_of_error (runSteps_eq_error_iff.2 ?_) _
      exact ⟨_, _, _, _, _, hsplit, hrec, runStep_eq_error_iff.2 ⟨g, rfl, hescapes⟩⟩

/-! ## Steps that cannot be run -/

/-- The step is malformed, names no operator of the registry or one that takes another number of
arguments, refers to a value that is not there, or has a rule that fails. -/
inductive IsRejected (r : Registry) (raw : Value) (values : List Value) : Prop
  | malformed : Step.IsMalformed raw → IsRejected r raw values
  | unknown {s : Step} : Step.ofValue raw = .ok s → r.find? s.operator = none →
      IsRejected r raw values
  | count {s : Step} {o : Operator} : Step.ofValue raw = .ok s → r.find? s.operator = some o →
      o.accepts s.args.length = false → IsRejected r raw values
  | reference {s : Step} {arg i : Value} : Step.ofValue raw = .ok s → arg ∈ s.args →
      Step.reference? arg = some i → Step.place? i values.length = none → IsRejected r raw values
  | rule {o : Operator} {args : List Value} {f : Failure} :
      prepare r raw values = .ok (o, args) → o.simplify? args = .ok none →
      o.rule args = .error f → IsRejected r raw values

theorem not_ready_of_isMalformed {call : Step × Operator} (h : Step.IsMalformed raw) :
    ¬ Ready r raw call := by
  intro hready
  obtain ⟨failure, -, hof⟩ := Step.ofValue_of_isMalformed h
  obtain ⟨shown, -, hshown⟩ := Outcomes.bind_eq_ok_iff.1 (hof ▸ hready.isStep)
  cases hshown

/-- Whatever a rule fails with, its callers see a failure. -/
theorem exists_guarded_error (o : Operator) (x : Except Failure Value) (h : x = .error f) :
    ∃ f', Run.guarded o x = .error f' := by
  subst h
  unfold Run.guarded
  split
  · split <;> exact ⟨_, rfl⟩
  · exact ⟨_, rfl⟩

/-- A step that cannot be run gives no value. -/
theorem not_value_of_isRejected {v : Value} (h : IsRejected r raw values) :
    (runStep r n raw values).outcome ≠ .ok (e, some v) := by
  intro hstep
  cases runStep_eq_iff.1 hstep with
  | @value o args kind _ text hprep hans htext =>
    obtain ⟨s, hready, hargs⟩ := prepare_eq_ok_iff.1 hprep
    cases h with
    | malformed hraw => exact not_ready_of_isMalformed hraw hready
    | unknown hs hfind =>
      cases hready.isStep.symm.trans hs
      rw [Registry.find?_of_get hready.found] at hfind
      cases hfind
    | count hs hfind hcount =>
      cases hready.isStep.symm.trans hs
      rw [Registry.find?_of_get hready.found] at hfind
      cases hfind
      rw [hready.fits] at hcount
      cases hcount
    | reference hs harg href hplace =>
      cases hready.isStep.symm.trans hs
      obtain ⟨b, hb⟩ := Outcomes.exists_of_mapM hargs harg
      unfold Step.resolveArgument at hb
      rw [href] at hb
      dsimp only at hb
      rw [hplace] at hb
      obtain ⟨_, -, hthrow⟩ := Outcomes.bind_eq_ok_iff.1 hb
      cases hthrow
    | rule hprep' hs hrule =>
      cases hprep.symm.trans hprep'
      obtain ⟨f, hfail⟩ := exists_guarded_error o _ hrule
      rw [answer_eq_error_iff.2 (.inr ⟨hs, hfail⟩)] at hans
      cases hans

/-- A trace whose run reached a step that cannot be run has the entries of the steps before it, that
of the error and that of the result; the steps after it were not run. -/
theorem error_of_isRejected (ht : (run r steps inputs).outcome = .ok t)
    (hsteps : steps = before ++ raw :: after) (hrec : Recorded r 1 inputs before es vs false)
    (h : IsRejected r raw (inputs ++ vs)) :
    ∃ first e last, t.entries = first :: es ++ [e, last] ∧ t.values = inputs ++ vs ∧
      first.kind = .input ∧ (∀ e' ∈ es, e'.kind.IsAnswer) ∧ e.step = before.length + 1 ∧
      (∃ text, e.kind = .error text) ∧ last.kind = .output := by
  subst hsteps
  obtain ⟨first, es', vs', b, last, hall, hfirst, -, -, hlast, -, -, rfl, -⟩ := exists_of_run ht
  obtain ⟨answers, error?, hes⟩ := hrec.hasEntries
  obtain ⟨later, rest, rfl, rfl, hlater⟩ := hrec.split hall
  have hanswers : ∀ e' ∈ es, e'.kind.IsAnswer := by
    have hnone : error? = none := by simpa using hes.failed
    rw [hes.entries, hnone]
    simpa using hes.isAnswer
  cases hlater with
  | @failed _ _ _ _ e hstep =>
    have he := isEntryOf_runStep hstep
    exact ⟨first, e, last, by simp, by simp, hfirst, hanswers, by rw [he.step, Nat.add_comm],
      isError_iff.1 (he.error rfl), hlast⟩
  | step hstep => exact absurd hstep (not_value_of_isRejected h)

/-- A traced run over the built-in operators fails just with the faults that escape from it, and a
step that it reaches and that cannot be run ends its trace with the one entry of an error. -/
theorem run_fails_or_records (now : DateTime) (steps inputs : List Value) :
    (∀ f, (run (.builtIn now) steps inputs).outcome = .error f ↔
      ∃ g, f = .fault g ∧ EscapesRun (.builtIn now) steps inputs g) ∧
    ∀ before raw after es vs t, steps = before ++ raw :: after →
      Recorded (.builtIn now) 1 inputs before es vs false →
      IsRejected (.builtIn now) raw (inputs ++ vs) →
      (run (.builtIn now) steps inputs).outcome = .ok t →
      ∃ first e last, t.entries = first :: es ++ [e, last] ∧ t.values = inputs ++ vs ∧
        first.kind = .input ∧ (∀ e' ∈ es, e'.kind.IsAnswer) ∧ e.step = before.length + 1 ∧
        (∃ text, e.kind = .error text) ∧ last.kind = .output :=
  ⟨fun _ => run_eq_error_iff, fun _ _ _ _ _ _ hsteps hrec h ht =>
    error_of_isRejected ht hsteps hrec h⟩

/-- Arguments that cannot be read item by item are not recorded. -/
theorem not_run_unreadable : ¬ ∃ t, (run (.builtIn Registry.epoch)
    [.map [("id", .text "ADD"), ("args", .int 5)]] [.int 1]).outcome = .ok t := by
  rintro ⟨t, ht⟩
  have hescapes : EscapesRun (.builtIn Registry.epoch)
      [.map [("id", .text "ADD"), ("args", .int 5)]] [.int 1] (.notIterable "int") := by
    have hinput : ¬ (Value.int 1).HasLongInteger := by
      rw [Value.int, Value.hasLongInteger_int]
      exact Number.not_isLong_of_lt (k := 1) (by decide) (by decide)
    refine .step (by simpa using hinput) (List.nil_append _).symm .nil ?_
    exact .notIterable (v := .int 5) rfl rfl rfl id
  rw [run_eq_error_iff.2 ⟨_, rfl, hescapes⟩] at ht
  cases ht

end RecordCalc.Trace
