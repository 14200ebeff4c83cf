import RecordCalc.Pipeline.Trace
import RecordCalc.Proofs.Evaluation.Run
import RecordCalc.Proofs.Operator.Registry

/-
  One step of a traced run. A step that names an operator and fits it is ready (`Ready`); with its
  references resolved it is prepared (`prepare_eq_ok_iff`). A prepared call is answered by the law
  that simplifies it, or else by the rule of its operator (`answer`), and the answer is described.
  How a step ends is decided by these three (`StepEnd`, `runStep_eq_iff`).
-/

namespace RecordCalc

namespace Pipeline

/-- A raw value that is a step whose operator the registry has, with as many arguments as it
takes. -/
structure Ready (r : Registry) (raw : Value) (call : Step × Operator) : Prop where
  isStep : Step.ofValue raw = .ok call.1
  found : r.get call.1.operator = .ok call.2
  fits : call.2.accepts call.1.args.length = true

end Pipeline

namespace EntryKind

/-- The kinds of the entries of steps that give a value. -/
def IsAnswer : EntryKind → Prop
  | simplification _ | evaluation => True
  | _ => False

/-- Whether the entry tells of an error. -/
def isError : EntryKind → Bool
  | error _ => true
  | _ => false

end EntryKind

namespace Trace

open Pipeline (Ready)

variable {r : Registry} {n : Nat} {raw : Value} {values : List Value} {o : Operator}
  {args : List Value} {kind : EntryKind} {f : Failure} {e : TraceEntry} {v : Value}

theorem checkCount_eq_ok_iff {count : Nat} :
    Step.checkCount o count = .ok () ↔ o.accepts count = true := by
  unfold Step.checkCount
  split <;> simp_all

/-- A step that is ready is prepared by resolving its references. -/
theorem prepare_of_ready {s : Step} (h : Ready r raw (s, o)) :
    prepare r raw values = (o, ·) <$> s.resolve values := by
  have hcount := checkCount_eq_ok_iff.2 h.fits
  simp only [prepare, h.isStep, h.found, hcount, bind, Except.bind]
  cases s.resolve values <;> rfl

theorem prepare_eq_ok_iff :
    prepare r raw values = .ok (o, args) ↔
      ∃ s, Ready r raw (s, o) ∧ s.resolve values = .ok args := by
  constructor
  · intro h
    simp only [prepare, Outcomes.bind_eq_ok_iff, pure, Except.pure, Except.ok.injEq,
      Prod.mk.injEq] at h
    obtain ⟨s, hstep, o', hfound, ⟨⟩, hfits, args', hargs, rfl, rfl⟩ := h
    exact ⟨s, ⟨hstep, hfound, checkCount_eq_ok_iff.1 hfits⟩, hargs⟩
  · rintro ⟨s, hready, hargs⟩
    rw [prepare_of_ready hready, hargs]
    rfl

theorem accepts_of_prepare (h : prepare r raw values = .ok (o, args)) :
    o.accepts args.length = true := by
  obtain ⟨s, hready, hargs⟩ := prepare_eq_ok_iff.1 h
  rw [← (Outcomes.mapM_eq_ok_iff.1 hargs).length_eq]
  exact hready.fits

/-! ## Answers -/

/-- What a prepared call comes to: the law that simplifies it gives the value, or else the rule. -/
def answer (o : Operator) (args : List Value) : Except Failure (EntryKind × Value) :=
  match o.simplify? args with
  | .error f => .error (.fault f)
  | .ok (some s) => .ok (.simplification s.rule, s.result)
  | .ok none =>
    match Run.guarded o (o.rule args) with
    | .error f => .error f
    | .ok v => .ok (.evaluation, v)

theorem answer_eq_ok_iff :
    answer o args = .ok (kind, v) ↔
      (∃ s, o.simplify? args = .ok (some s) ∧ kind = .simplification s.rule ∧ v = s.result) ∨
        (o.simplify? args = .ok none ∧ Run.guarded o (o.rule args) = .ok v ∧
          kind = .evaluation) := by
  unfold answer
  cases o.simplify? args with
  | error g => simp
  | ok simplified =>
    cases simplified with
    | some s => simp [eq_comm]
    | none => cases Run.guarded o (o.rule args) <;> simp [and_comm, eq_comm]

theorem answer_eq_error_iff :
    answer o args = .error f ↔
      (∃ g, o.simplify? args = .error g ∧ f = .fault g) ∨
        (o.simplify? args = .ok none ∧ Run.guarded o (o.rule args) = .error f) := by
  unfold answer
  cases o.simplify? args with
  | error g => simp [eq_comm]
  | ok simplified =>
    cases simplified with
    | some s => simp
    | none => cases Run.guarded o (o.rule args) <;> simp

/-- The words for a call and its value. -/
def sentence (kind : EntryKind) (call shown : String) : String :=
  match kind with
  | .simplification rule => call ++ " simplifies to " ++ shown ++ " (" ++ rule.name ++ ")"
  | _ => call ++ " = " ++ shown

/-- The description of a call that was answered. -/
def describe (o : Operator) (args : List Value) (kind : EntryKind) (v : Value) :
    Except Fault String := do
  return sentence kind (← o.callText args) (← display v)

/-- A result that is made of the description, whose two texts are made in turn. -/
theorem described_outcome {α : Type} (o : Operator) (args : List Value) (kind : EntryKind)
    (v : Value) (result : String → α) :
    (do
      let call ← Run.ofFaulty (o.callText args)
      let shown ← Run.ofFaulty (display v)
      return result (sentence kind call shown) : Run α).outcome =
      match describe o args kind v with
      | .error g => .error (.fault g)
      | .ok text => .ok (result text) := by
  unfold describe
  cases o.callText args with
  | error g => rfl
  | ok call => cases display v <;> rfl

theorem runStep_outcome (r : Registry) (n : Nat) (raw : Value) (values : List Value) :
    (runStep r n raw values).outcome =
      match prepare r raw values with
      | .error f =>
        if isRecorded f then .ok (errorEntry n (operatorOf raw) [] f, none) else .error f
      | .ok (o, args) =>
        match answer o args with
        | .error f =>
          if f.isKind .evaluation then .ok (errorEntry n (.text o.id) args f, none) else .error f
        | .ok (kind, v) =>
          match describe o args kind v with
          | .error g => .error (.fault g)
          | .ok text => .ok (⟨n, kind, text, .text o.id, args, v⟩, some v) := by
  unfold runStep
  cases prepare r raw values with
  | error f =>
    dsimp only
    split <;> rfl
  | ok call =>
    obtain ⟨o, args⟩ := call
    dsimp only [answer]
    cases hs : o.simplify? args with
    | error g => rfl
    | ok simplified =>
      cases simplified with
      | some s =>
        exact described_outcome o args (.simplification s.rule) s.result fun text =>
          ((⟨n, .simplification s.rule, text, .text o.id, args, s.result⟩ : TraceEntry),
            some s.result)
      | none =>
        dsimp only [Run.applyRule]
        change Run.outcome (match Run.guarded o (o.rule args) with | .error f => _ | .ok v => _) = _
        cases Run.guarded o (o.rule args) with
        | error f =>
          dsimp only
          split <;> rfl
        | ok v =>
          exact described_outcome o args .evaluation v fun text =>
            ((⟨n, .evaluation, text, .text o.id, args, v⟩ : TraceEntry), some v)

/-! ## The ends of a step -/

/-- How a step can end. -/
inductive StepEnd (r : Registry) (n : Nat) (raw : Value) (values : List Value) :
    Except Failure (TraceEntry × Option Value) → Prop
  /-- The call is answered and the answer described. -/
  | value {o : Operator} {args : List Value} {kind : EntryKind} {v : Value} {text : String} :
      prepare r raw values = .ok (o, args) → answer o args = .ok (kind, v) →
      describe o args kind v = .ok text →
      StepEnd r n raw values (.ok (⟨n, kind, text, .text o.id, args, v⟩, some v))
  /-- The step cannot be prepared, which is recorded. -/
  | unprepared {f : Failure} : prepare r raw values = .error f → isRecorded f = true →
      StepEnd r n raw values (.ok (errorEntry n (operatorOf raw) [] f, none))
  /-- The rule fails, which is recorded. -/
  | unanswered {o : Operator} {args : List Value} {f : Failure} :
      prepare r raw values = .ok (o, args) → answer o args = .error f →
      f.isKind .evaluation = true →
      StepEnd r n raw values (.ok (errorEntry n (.text o.id) args f, none))
  /-- The step cannot be prepared, and the failure is not one that is recorded. -/
  | preparing {f : Failure} : prepare r raw values = .error f → isRecorded f = false →
      StepEnd r n raw values (.error f)
  /-- The call is not answered, and the failure is not one that is recorded. -/
  | answering {o : Operator} {args : List Value} {f : Failure} :
      prepare r raw values = .ok (o, args) → answer o args = .error f →
      f.isKind .evaluation = false → StepEnd r n raw values (.error f)
  /-- The answer cannot be described. -/
  | describing {o : Operator} {args : List Value} {kind : EntryKind} {v : Value} {g : Fault} :
      prepare r raw values = .ok (o, args) → answer o args = .ok (kind, v) →
      describe o args kind v = .error g → StepEnd r n raw values (.error (.fault g))

theorem stepEnd_runStep (r : Registry) (n : Nat) (raw : Value) (values : List Value) :
    StepEnd r n raw values (runStep r n raw values).outcome := by
  rw [runStep_outcome]
  cases hprep : prepare r raw values with
  | error f =>
    cases hrec : isRecorded f with
    | true => simpa [hrec] using .unprepared hprep hrec
    | false => simpa [hrec] using .preparing hprep hrec
  | ok call =>
    obtain ⟨o, args⟩ := call
    dsimp only
    cases hans : answer o args with
    | error f =>
      cases hkind : f.isKind .evaluation with
      | true => simpa [hkind] using .unanswered hprep hans hkind
      | false => simpa [hkind] using .answering hprep hans hkind
    | ok answered =>
      obtain ⟨kind, v⟩ := answered
      dsimp only
      cases htext : describe o args kind v with
      | error g => exact .describing hprep hans htext
      | ok text => exact .value hprep hans htext

theorem runStep_eq_iff {end_ : Except Failure (TraceEntry × Option Value)} :
    (runStep r n raw values).outcome = end_ ↔ StepEnd r n raw values end_ := by
  refine ⟨fun h => h ▸ stepEnd_runStep r n raw values, fun h => ?_⟩
  rw [runStep_outcome]
  cases h with
  | value hprep hans htext => simp [hprep, hans, htext]
  | unprepared hprep hrec => simp [hprep, hrec]
  | unanswered hprep hans hkind => simp [hprep, hans, hkind]
  | preparing hprep hrec => simp [hprep, hrec]
  | answering hprep hans hkind => simp [hprep, hans, hkind]
  | describing hprep hans htext => simp [hprep, hans, htext]

/-! ## Entries -/

/-- The entry of a step with the number and the operator of the step, and with the value or the
error that the step ended in. -/
structure IsEntryOf (n : Nat) (raw : Value) (e : TraceEntry) (v? : Option Value) : Prop where
  step : e.step = n
  operator : e.operator = operatorOf raw
  value : ∀ v, v? = some v → e.kind.IsAnswer ∧ e.result = v
  error : v? = none → e.kind.isError = true

theorem operatorOf_of_ofValue {s : Step} (h : Step.ofValue raw = .ok s) :
    operatorOf raw = .text s.operator := by
  cases raw with
  | step operator args =>
    cases h
    rfl
  | map entries =>
    rw [Step.ofValue] at h
    split at h
    · next operator hnamed =>
      obtain ⟨args, -, hs⟩ := Outcomes.bind_eq_ok_iff.1 h
      cases hs
      exact hnamed
    · obtain ⟨shown, -, hs⟩ := Outcomes.bind_eq_ok_iff.1 h
      cases hs
  | _ =>
    obtain ⟨shown, -, hs⟩ := Outcomes.bind_eq_ok_iff.1 h
    cases hs

theorem operatorOf_of_prepare (h : prepare r raw values = .ok (o, args)) :
    operatorOf raw = .text o.id := by
  obtain ⟨s, hready, -⟩ := prepare_eq_ok_iff.1 h
  rw [operatorOf_of_ofValue hready.isStep, Registry.id_of_get hready.found]

theorem isAnswer_of_answer (h : answer o args = .ok (kind, v)) : kind.IsAnswer := by
  rcases answer_eq_ok_iff.1 h with ⟨s, -, rfl, -⟩ | ⟨-, -, rfl⟩
  · trivial
  · trivial

theorem isEntryOf_runStep {v? : Option Value}
    (h : (runStep r n raw values).outcome = .ok (e, v?)) : IsEntryOf n raw e v? := by
  cases runStep_eq_iff.1 h with
  | value hprep hans htext =>
    refine ⟨rfl, (operatorOf_of_prepare hprep).symm, ?_, nofun⟩
    rintro _ ⟨⟩
    exact ⟨isAnswer_of_answer hans, rfl⟩
  | unprepared => exact ⟨rfl, rfl, nofun, fun _ => rfl⟩
  | unanswered hprep => exact ⟨rfl, (operatorOf_of_prepare hprep).symm, nofun, fun _ => rfl⟩

end Trace

end RecordCalc
