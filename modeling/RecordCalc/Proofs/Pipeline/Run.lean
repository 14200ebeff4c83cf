import RecordCalc.Proofs.Pipeline.Step

/-
  Traced runs of steps. The steps that are reached, one after the other, each give an entry, and a
  value unless they fail (`Recorded`). That is all that a run does (`runSteps_eq_ok_iff`), and it
  fails where a step that is reached does (`runSteps_eq_error_iff`). From the entry of one step
  those of a whole run follow (`HasEntries`). The steps of a run in two parts are those of the
  parts, and what they give does not depend on where the numbers start.
-/

namespace RecordCalc.Trace

variable {r : Registry} {n m : Nat} {raw : Value} {steps rest xs ys values vs ws : List Value}
  {es es' : List TraceEntry} {e : TraceEntry} {v : Value} {b b' : Bool} {f : Failure} {t u : Trace}

/-- The entries and the values of some steps, the first of a number, on the values so far; and
whether the last step that was reached failed. -/
inductive Recorded (r : Registry) :
    Nat → List Value → List Value → List TraceEntry → List Value → Bool → Prop
  | nil {n : Nat} {values : List Value} : Recorded r n values [] [] [] false
  | failed {n : Nat} {values rest : List Value} {raw : Value} {e : TraceEntry} :
      (runStep r n raw values).outcome = .ok (e, none) →
      Recorded r n values (raw :: rest) [e] [] true
  | step {n : Nat} {values rest vs : List Value} {raw v : Value} {e : TraceEntry}
      {es : List TraceEntry} {b : Bool} :
      (runStep r n raw values).outcome = .ok (e, some v) →
      Recorded r (n + 1) (values ++ [v]) rest es vs b →
      Recorded r n values (raw :: rest) (e :: es) (v :: vs) b

/-! ## What runs come to -/

theorem runSteps_eq_ok_iff :
    (runSteps r n t steps).outcome = .ok u ↔
      ∃ es vs b, Recorded r n t.values steps es vs b ∧ u = ⟨t.entries ++ es, t.values ++ vs⟩ := by
  induction steps generalizing n t with
  | nil =>
    constructor
    · rintro ⟨⟩
      exact ⟨[], [], false, .nil, by simp⟩
    · rintro ⟨es, vs, b, ⟨⟩, rfl⟩
      simp [runSteps, Run.done]
  | cons raw rest ih =>
    constructor
    · intro h
      obtain ⟨⟨e, v?⟩, hstep, hrest⟩ := Run.bind_outcome_ok h
      cases v? with
      | none =>
        cases hrest
        exact ⟨[e], [], true, .failed hstep, by simp⟩
      | some v =>
        obtain ⟨es, vs, b, hrec, rfl⟩ := ih.1 hrest
        exact ⟨e :: es, v :: vs, b, .step hstep hrec, by simp⟩
    · rintro ⟨es, vs, b, hrec, rfl⟩
      cases hrec with
      | failed hstep =>
        rw [runSteps, Run.bind_outcome_of_ok hstep]
        simp [pure, Run.done]
      | step hstep hrec =>
        rw [runSteps, Run.bind_outcome_of_ok hstep]
        exact ih.2 ⟨_, _, _, hrec, by simp⟩

/-- A run fails at a step that it reaches. -/
theorem runSteps_eq_error_iff :
    (runSteps r n t steps).outcome = .error f ↔
      ∃ before raw after es vs, steps = before ++ raw :: after ∧
        Recorded r n t.values before es vs false ∧
        (runStep r (n + before.length) raw (t.values ++ vs)).outcome = .error f := by
  induction steps generalizing n t with
  | nil => simp [runSteps, Run.done]
  | cons raw rest ih =>
    rw [runSteps, Run.bind_outcome_error_iff]
    constructor
    · rintro (hstep | ⟨⟨e, v?⟩, hstep, hrest⟩)
      · exact ⟨[], raw, rest, [], [], rfl, .nil, by simpa using hstep⟩
      · cases v? with
        | none => cases hrest
        | some v =>
          obtain ⟨before, raw', after, es, vs, rfl, hrec, hlast⟩ := ih.1 hrest
          refine ⟨raw :: before, raw', after, e :: es, v :: vs, rfl, .step hstep hrec, ?_⟩
          simpa [Nat.add_assoc, Nat.add_comm 1] using hlast
    · rintro ⟨before, raw', after, es, vs, hsteps, hrec, hlast⟩
      cases hrec with
      | nil =>
        obtain ⟨rfl, rfl⟩ := List.cons.inj hsteps
        exact .inl (by simpa using hlast)
      | @step _ _ before vs _ v e es _ hstep hrec =>
        obtain ⟨rfl, rfl⟩ := List.cons.inj hsteps
        refine .inr ⟨(e, some v), hstep, ih.2 ⟨before, raw', after, es, vs, rfl, hrec, ?_⟩⟩
        simpa [Nat.add_assoc, Nat.add_comm 1] using hlast

/-! ## Entries and values -/

/-- The entries of some steps: answers and then at most one error, numbered in turn, the answers
with the values. -/
structure HasEntries (n : Nat) (steps : List Value) (es : List TraceEntry) (vs : List Value)
    (b : Bool) (answers : List TraceEntry) (error? : Option TraceEntry) : Prop where
  entries : es = answers ++ error?.toList
  numbered : es.map (·.step) = List.range' n es.length
  operators : es.map (·.operator) = (steps.take es.length).map operatorOf
  isAnswer : ∀ e ∈ answers, e.kind.IsAnswer
  isError : ∀ e ∈ error?, e.kind.isError = true
  failed : b = error?.isSome
  values : vs = answers.map (·.result)
  complete : b = false → es.length = steps.length

theorem Recorded.hasEntries (h : Recorded r n values steps es vs b) :
    ∃ answers error?, HasEntries n steps es vs b answers error? := by
  induction h with
  | nil => exact ⟨[], none, by simp, by simp, by simp, by simp, by simp, by simp, by simp, by simp⟩
  | failed hstep =>
    have he := isEntryOf_runStep hstep
    refine ⟨[], some _, rfl, ?_, ?_, by simp, ?_, rfl, rfl, nofun⟩
    · simp [he.step]
    · simp [he.operator]
    · rintro _ ⟨⟩
      exact he.error rfl
  | @step n values rest vs raw v e es b hstep _ ih =>
    have he := isEntryOf_runStep hstep
    obtain ⟨answers, error?, h⟩ := ih
    refine ⟨e :: answers, error?, ?_, ?_, ?_, ?_, h.isError, h.failed, ?_, ?_⟩
    · rw [h.entries, List.cons_append]
    · simp [he.step, h.numbered, List.range'_succ]
    · simp [he.operator, h.operators]
    · exact List.forall_mem_cons.2 ⟨(he.value _ rfl).1, h.isAnswer⟩
    · rw [List.map_cons, (he.value _ rfl).2, h.values]
    · intro hb
      rw [List.length_cons, List.length_cons, h.complete hb]

/-! ## Steps in two parts -/

/-- The run of some steps begins with the run of the first of them. -/
theorem Recorded.split (h : Recorded r n values xs es vs false)
    (h' : Recorded r n values (xs ++ ys) es' ws b) :
    ∃ later after, es' = es ++ later ∧ ws = vs ++ after ∧
      Recorded r (n + xs.length) (values ++ vs) ys later after b := by
  induction xs generalizing n values es vs es' ws with
  | nil =>
    cases h
    exact ⟨es', ws, rfl, rfl, by simpa using h'⟩
  | cons raw xs ih =>
    rw [List.cons_append] at h'
    obtain _ | _ | ⟨hstep, hrest⟩ := h
    cases h' with
    | failed hstep' =>
      rw [hstep] at hstep'
      cases hstep'
    | step hstep' hrest' =>
      rw [hstep] at hstep'
      cases hstep'
      obtain ⟨later, after, rfl, rfl, hlater⟩ := ih hrest hrest'
      refine ⟨later, after, rfl, rfl, ?_⟩
      simpa [Nat.add_assoc, Nat.add_comm 1] using hlater

/-- More steps after some that did not fail give their entries and values behind theirs. -/
theorem Recorded.append (h : Recorded r n values xs es vs false)
    (h' : Recorded r (n + xs.length) (values ++ vs) ys es' ws b) :
    Recorded r n values (xs ++ ys) (es ++ es') (vs ++ ws) b := by
  induction xs generalizing n values es vs with
  | nil =>
    cases h
    simpa using h'
  | cons raw xs ih =>
    obtain _ | _ | ⟨hstep, hrest⟩ := h
    refine .step hstep (ih hrest ?_)
    simpa [Nat.add_assoc, Nat.add_comm 1] using h'

/-- The value of a step that ends in an entry. -/
theorem value?_of_runStep {v? : Option Value}
    (h : (runStep r n raw values).outcome = .ok (e, v?)) :
    v? = ((prepare r raw values).bind fun call => answer call.1 call.2).toOption.map (·.2) := by
  cases runStep_eq_iff.1 h with
  | value hprep hans => simp [hprep, hans, Except.bind, Except.toOption]
  | unprepared hprep => simp [hprep, Except.bind, Except.toOption]
  | unanswered hprep hans => simp [hprep, hans, Except.bind, Except.toOption]

/-- The values that steps give do not depend on the numbers of the steps. -/
theorem Recorded.renumber (h : Recorded r n values steps es vs b)
    (h' : Recorded r m values steps es' ws b') : vs = ws ∧ b = b' := by
  -- by induction on the first run; at each step the answer decides how both of them go on
  induction h generalizing m es' ws b' with
  | nil =>
    cases h'
    exact ⟨rfl, rfl⟩
  | failed hstep =>
    have hnone := value?_of_runStep hstep
    cases h' with
    | failed hstep' => exact ⟨rfl, rfl⟩
    | step hstep' =>
      rw [← value?_of_runStep hstep'] at hnone
      cases hnone
  | step hstep _ ih =>
    have hsome := value?_of_runStep hstep
    cases h' with
    | failed hstep' =>
      rw [← value?_of_runStep hstep'] at hsome
      cases hsome
    | step hstep' hrest' =>
      rw [← value?_of_runStep hstep'] at hsome
      cases hsome
      obtain ⟨rfl, rfl⟩ := ih hrest'
      exact ⟨rfl, rfl⟩

end RecordCalc.Trace
