import RecordCalc.Proofs.Operator.Clock
import RecordCalc.Proofs.Pipeline.Laws
import RecordCalc.Proofs.Pipeline.Traces

/-
  Composed pipelines against traced runs. A pipeline is composed when all of its steps are ready
  (`compose_eq_ok_iff`), and then it evaluates one after the other. A traced run checks a step when
  it comes to it, and does not evaluate a call that it can simplify. Where every call that it
  simplified has arguments of the sort of its operator, both come to the same
  (`composed_of_run`).
-/

namespace RecordCalc

namespace Pipeline

/-- A pipeline composed and then run on some inputs. -/
def composed (r : Registry) (steps inputs : List Value) : Run Value := do
  let p ← Run.ofExcept (compose r steps)
  p.run inputs

variable {r r' : Registry} {steps inputs values : List Value} {p : Pipeline} {raw : Value}
  {call call' : Step × Operator}

theorem Ready.unique (h : Ready r raw call) (h' : Ready r raw call') : call = call' := by
  obtain ⟨s, o⟩ := call
  obtain ⟨s', o'⟩ := call'
  obtain rfl : s = s' := Except.ok.inj (h.isStep.symm.trans h'.isStep)
  obtain rfl : o = o' := Except.ok.inj (h.found.symm.trans h'.found)
  rfl

theorem forall₂_ready {ss : List Step} {os : List Operator} {us : List Unit}
    (hsteps : List.Forall₂ (fun raw s => Step.ofValue raw = .ok s) steps ss)
    (hfound : List.Forall₂ (fun s o => r.get s.operator = .ok o) ss os)
    (hfits : List.Forall₂ (fun call u => Step.checkCount call.2 call.1.args.length = .ok u)
      (ss.zip os) us) :
    List.Forall₂ (Ready r) steps (ss.zip os) := by
  induction hsteps generalizing os us with
  | nil => exact .nil
  | cons hstep _ ih =>
    obtain _ | ⟨ho, hfound⟩ := hfound
    obtain _ | ⟨hu, hfits⟩ := hfits
    exact .cons ⟨hstep, ho, Trace.checkCount_eq_ok_iff.1 hu⟩ (ih hfound hfits)

theorem forall₂_of_ready {calls : List (Step × Operator)}
    (h : List.Forall₂ (Ready r) steps calls) :
    List.Forall₂ (fun raw s => Step.ofValue raw = .ok s) steps (calls.map (·.1)) ∧
      List.Forall₂ (fun s o => r.get s.operator = .ok o) (calls.map (·.1)) (calls.map (·.2)) ∧
      List.Forall₂ (fun call u => Step.checkCount call.2 call.1.args.length = .ok u) calls
        (calls.map fun _ => ()) ∧
      (calls.map (·.1)).zip (calls.map (·.2)) = calls := by
  induction h with
  | nil => exact ⟨.nil, .nil, .nil, rfl⟩
  | cons hready _ ih =>
    obtain ⟨hsteps, hfound, hfits, hzip⟩ := ih
    exact ⟨.cons hready.isStep hsteps, .cons hready.found hfound,
      .cons (Trace.checkCount_eq_ok_iff.2 hready.fits) hfits, congrArg (_ :: ·) hzip⟩

/-- A pipeline is composed of the calls that its steps are ready for. -/
theorem compose_eq_ok_iff :
    compose r steps = .ok p ↔ List.Forall₂ (Ready r) steps p.steps := by
  simp only [compose, Outcomes.bind_eq_ok_iff, Outcomes.mapM_eq_ok_iff]
  constructor
  · rintro ⟨ss, hsteps, os, hfound, us, hfits, ⟨⟩⟩
    exact forall₂_ready hsteps hfound hfits
  · intro h
    obtain ⟨hsteps, hfound, hfits, hzip⟩ := forall₂_of_ready h
    refine ⟨_, hsteps, _, hfound, _, hzip.symm ▸ hfits, ?_⟩
    rw [hzip]
    rfl

theorem valuesAfter_cons {s : Step} {o : Operator} {rest : List (Step × Operator)} :
    (valuesAfter values ((s, o) :: rest)).outcome =
      match s.resolve values with
      | .error f => .error f
      | .ok args =>
        match Run.guarded o (o.rule args) with
        | .error f => .error f
        | .ok v => (valuesAfter (values ++ [v]) rest).outcome := by
  rw [valuesAfter, Run.bind_outcome]
  cases s.resolve values with
  | error f => rfl
  | ok args =>
    dsimp only [Run.ofExcept]
    change ((Run.applyRule o args) >>= _).outcome = _
    rw [Run.bind_outcome, Run.applyRule]
    cases Run.guarded o (o.rule args) <;> rfl

end Pipeline

namespace Trace

open Pipeline (Ready)
open Calendar (DateTime)

variable {now later : DateTime} {steps values vs : List Value} {es : List TraceEntry}
  {e : TraceEntry} {n : Nat} {b : Bool} {r : Registry} {raw v : Value} {o : Operator}
  {args : List Value} {kind : EntryKind} {f : Failure}

/-- An entry of a call that was simplified has arguments of the sort of its operator. -/
def HasOwnArguments (e : TraceEntry) : Prop :=
  ∀ rule, e.kind = .simplification rule →
    ∃ id, e.operator = .text id ∧ Pipeline.HasOwnSort id e.args

/-- A simplified or evaluated call has the value that the rule gives. -/
theorem guarded_eq_of_answer (ho : o ∈ builtInOperators now) (hcount : o.accepts args.length = true)
    (hown : ∀ rule, kind = .simplification rule → Pipeline.HasOwnSort o.id args)
    (h : answer o args = .ok (kind, v)) : Run.guarded o (o.rule args) = .ok v := by
  rcases answer_eq_ok_iff.1 h with ⟨s, hs, rfl, rfl⟩ | ⟨-, hrule, -⟩
  · rw [Pipeline.rule_eq_of_simplify? ho (hown _ rfl) hcount hs]
    rfl
  · exact hrule

/-- A recorded failure of a prepared call is one of its rule. -/
theorem guarded_eq_of_answer_error (h : answer o args = .error f)
    (hkind : f.isKind .evaluation = true) : Run.guarded o (o.rule args) = .error f := by
  rcases answer_eq_error_iff.1 h with ⟨g, -, rfl⟩ | ⟨-, hrule⟩
  · cases hkind
  · exact hrule

/-- The steps of a run that did not fail are all ready. -/
theorem Recorded.exists_ready (h : Recorded r n values steps es vs false) :
    ∃ calls, List.Forall₂ (Ready r) steps calls := by
  induction steps generalizing n values es vs with
  | nil => exact ⟨[], .nil⟩
  | cons raw steps ih =>
    obtain _ | _ | ⟨hstep, hrest⟩ := h
    obtain ⟨calls, hcalls⟩ := ih hrest
    cases runStep_eq_iff.1 hstep with
    | value hprep =>
      obtain ⟨s, hready, -⟩ := prepare_eq_ok_iff.1 hprep
      exact ⟨_ :: calls, .cons hready hcalls⟩

/-- A step that gave a value evaluates to it. -/
theorem evaluated_of_runStep {s : Step}
    (hready : Ready (.builtIn now) raw (s, o)) (hown : HasOwnArguments e)
    (h : (runStep (.builtIn now) n raw values).outcome = .ok (e, some v)) :
    ∃ args, s.resolve values = .ok args ∧ Run.guarded o (o.rule args) = .ok v := by
  cases runStep_eq_iff.1 h with
  | @value o' args kind _ text hprep hans htext =>
    obtain ⟨s', hready', hargs⟩ := prepare_eq_ok_iff.1 hprep
    obtain ⟨rfl, rfl⟩ := Prod.mk.inj (hready.unique hready')
    refine ⟨args, hargs, guarded_eq_of_answer (Registry.mem_of_get hready.found).1
      (accepts_of_prepare hprep) ?_ hans⟩
    intro rule hkind
    obtain ⟨id, hid, hsort⟩ := hown rule hkind
    cases hid
    exact hsort

/-- A step that failed though it is ready fails when it is evaluated. -/
theorem failed_of_runStep {s : Step} (hready : Ready r raw (s, o))
    (h : (runStep r n raw values).outcome = .ok (e, none)) :
    (∃ f, s.resolve values = .error f) ∨
      ∃ args f, s.resolve values = .ok args ∧ Run.guarded o (o.rule args) = .error f := by
  cases runStep_eq_iff.1 h with
  | @unprepared f hprep =>
    cases hargs : s.resolve values with
    | error f => exact .inl ⟨f, rfl⟩
    | ok args =>
      rw [prepare_eq_ok_iff.2 ⟨s, hready, hargs⟩] at hprep
      cases hprep
  | @unanswered o' args f hprep hans hkind =>
    obtain ⟨s', hready', hargs⟩ := prepare_eq_ok_iff.1 hprep
    obtain ⟨rfl, rfl⟩ := Prod.mk.inj (hready.unique hready')
    exact .inr ⟨args, f, hargs, guarded_eq_of_answer_error hans hkind⟩

/-- The composed run has the values of a traced run that did not fail, and fails where it did. -/
theorem Recorded.valuesAfter {calls : List (Step × Operator)}
    (h : Recorded (.builtIn now) n values steps es vs b)
    (hcalls : List.Forall₂ (Ready (.builtIn now)) steps calls)
    (hown : ∀ e ∈ es, HasOwnArguments e) :
    (b = false → (Pipeline.valuesAfter values calls).outcome = .ok (values ++ vs)) ∧
      (b = true → ∃ f, (Pipeline.valuesAfter values calls).outcome = .error f) := by
  -- by induction on the traced run: both runs come to the same values step by step
  induction h generalizing calls with
  | nil =>
    cases hcalls
    exact ⟨fun _ => by simp [Pipeline.valuesAfter, Run.done], by simp⟩
  | failed hstep =>
    obtain _ | ⟨hready, -⟩ := hcalls
    refine ⟨by simp, fun _ => ?_⟩
    rw [Pipeline.valuesAfter_cons]
    rcases failed_of_runStep hready hstep with ⟨f, hargs⟩ | ⟨args, f, hargs, hrule⟩
    · exact ⟨f, by rw [hargs]⟩
    · exact ⟨f, by rw [hargs]; simp only [hrule]⟩
  | step hstep _ ih =>
    obtain _ | ⟨hready, hcalls⟩ := hcalls
    obtain ⟨hfirst, hrest⟩ := List.forall_mem_cons.1 hown
    obtain ⟨args, hargs, hrule⟩ := evaluated_of_runStep hready hfirst hstep
    rw [Pipeline.valuesAfter_cons, hargs]
    simp only [hrule]
    simpa using ih hcalls hrest

/-- The registries of all moments make the same steps ready, those of the clock apart. -/
theorem ready_moment (now later : DateTime) {call : Step × Operator}
    (hraw : ∀ s, Step.ofValue raw = .ok s → s.operator ∉ clockNames)
    (h : Ready (.builtIn now) raw call) : Ready (.builtIn later) raw call := by
  have hget := (Registry.sameBeyondClock_builtIn now later).get _ (hraw _ h.isStep)
  exact ⟨h.isStep, hget.symm.trans h.found, h.fits⟩

theorem forall₂_ready_moment (now later : DateTime) {calls : List (Step × Operator)}
    (hsteps : ∀ raw ∈ steps, ∀ s, Step.ofValue raw = .ok s → s.operator ∉ clockNames)
    (h : List.Forall₂ (Ready (.builtIn now)) steps calls) :
    List.Forall₂ (Ready (.builtIn later)) steps calls :=
  ((List.forall₂_and_left _ _).2 ⟨hsteps, h⟩).imp fun _ _ ⟨hraw, hready⟩ =>
    ready_moment now later hraw hready

theorem composed_outcome {inputs : List Value} {p : Pipeline}
    (hp : Pipeline.compose r steps = .ok p) :
    (Pipeline.composed r steps inputs).outcome =
      match (Pipeline.valuesAfter inputs p.steps).outcome with
      | .error f => .error f
      | .ok values => .ok (values.getLast?.getD .null) := by
  rw [Pipeline.composed, hp, Run.ofExcept_ok_bind, Pipeline.run, Run.bind_outcome]
  cases (Pipeline.valuesAfter inputs p.steps).outcome <;> rfl

/-- A traced run whose simplified calls have arguments of the sorts of their operators fails when
the composed pipeline does, and comes to its value. -/
theorem composed_of_run {inputs : List Value} {t : Trace}
    (ht : (run (.builtIn now) steps inputs).outcome = .ok t)
    (hsteps : ∀ raw ∈ steps, ∀ s, Step.ofValue raw = .ok s → s.operator ∉ clockNames)
    (hown : ∀ e ∈ t.entries, HasOwnArguments e) :
    (t.failed = true ↔
      ∃ f, (Pipeline.composed (.builtIn later) steps inputs).outcome = .error f) ∧
    (t.failed = false →
      (Pipeline.composed (.builtIn later) steps inputs).outcome = .ok t.result) := by
  obtain ⟨first, es, vs, b, last, hrec, -, -, -, -, -, -, rfl, rfl⟩ := exists_of_run ht
  have hes : ∀ e ∈ es, HasOwnArguments e := fun e he => hown e (by simp [he])
  cases hfailed : (Trace.mk (first :: es ++ [last]) (inputs ++ vs)).failed with
  | false =>
    rw [hfailed] at hrec
    obtain ⟨calls, hcalls⟩ := hrec.exists_ready
    have hvalues := (hrec.valuesAfter hcalls hes).1 rfl
    have hcompose := Pipeline.compose_eq_ok_iff (p := ⟨calls⟩).2
      (forall₂_ready_moment now later hsteps hcalls)
    have hcomposed : (Pipeline.composed (.builtIn later) steps inputs).outcome =
        .ok ((inputs ++ vs).getLast?.getD .null) := by
      rw [composed_outcome hcompose, hvalues]
    refine ⟨⟨nofun, fun ⟨f, hf⟩ => ?_⟩, fun _ => hcomposed⟩
    rw [hcomposed] at hf
    cases hf
  | true =>
    rw [hfailed] at hrec
    refine ⟨⟨fun _ => ?_, fun _ => rfl⟩, nofun⟩
    -- a step behind the one that failed may keep the pipeline from being composed
    cases hcompose : Pipeline.compose (.builtIn later) steps with
    | error f => exact ⟨f, by rw [Pipeline.composed, hcompose]; rfl⟩
    | ok p =>
      have hcalls := forall₂_ready_moment later now hsteps
        (Pipeline.compose_eq_ok_iff.1 hcompose)
      obtain ⟨f, hf⟩ := (hrec.valuesAfter hcalls hes).2 rfl
      exact ⟨f, by rw [composed_outcome hcompose, hf]⟩

theorem composed_adding :
    ∃ t, (run (.builtIn Registry.epoch) adding [.int 4]).outcome = .ok t ∧
      (∀ raw ∈ adding, ∀ s, Step.ofValue raw = .ok s → s.operator ∉ clockNames) ∧
      (∀ e ∈ t.entries, HasOwnArguments e) ∧ t.failed = false ∧
      (Pipeline.composed (.builtIn Registry.epoch) adding [.int 4]).outcome = .ok (.int 7) := by
  obtain ⟨first, e, e', last, ht, hfailed, hfirst, hlast, he', hkind, hid, hargs⟩ := run_adding
  have hsteps : ∀ raw ∈ adding, ∀ s, Step.ofValue raw = .ok s → s.operator ∉ clockNames := by
    simp [adding, Step.ofValue, clockNames]
  have hown : ∀ p ∈ [first, e, e', last], HasOwnArguments p := by
    simp only [List.forall_mem_cons, List.not_mem_nil, false_implies, implies_true, and_true]
    refine ⟨fun _ h => ?_, fun _ _ => ⟨_, hid, .ints (by simp) ?_⟩, fun _ h => ?_, fun _ h => ?_⟩
    · cases hfirst.symm.trans h
    · rw [hargs]
      simp [Value.IsInt]
    · cases he'.symm.trans h
    · cases hlast.symm.trans h
  exact ⟨_, ht, hsteps, hown, hfailed, (composed_of_run ht hsteps hown).2 hfailed⟩

end Trace

end RecordCalc
