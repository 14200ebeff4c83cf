import RecordCalc.Proofs.Pipeline.Laws
import RecordCalc.Proofs.Pipeline.Traces

/-
  The faults that escape from the steps of traced runs over the built-in operators: arguments of a
  step that cannot be read item by item; an integer that is too long to be written, in a malformed
  step or an unavailable reference, which failures show, or in the arguments or the value of a call;
  a decimal that signals when a simplification compares it; and a text for which there is no room in
  memory (`Escapes`). These are all, and each of them escapes (`runStep_eq_error_iff`). Any other
  failure of a step is recorded.
-/

namespace RecordCalc

open Calendar (DateTime)
open Pipeline (Ready)

/-! ## Descriptions -/

namespace Trace

variable {r : Registry} {now : DateTime} {n : Nat} {raw : Value} {values : List Value}
  {o : Operator} {args : List Value} {kind : EntryKind} {v : Value} {f : Failure} {g : Fault}

theorem writesUnless_argumentText (v : Value) :
    WritesUnless v.HasLongInteger (Operator.argumentText v) := by
  unfold Operator.argumentText
  split
  · exact .ok (Value.not_hasPart rfl id) _
  · exact .ok (Value.not_hasPart rfl id) _
  · exact .ok (Value.not_hasPart rfl id) _
  · exact Value.writesUnless_plain _

theorem writesUnless_callText (o : Operator) (args : List Value) :
    WritesUnless (∃ a ∈ args, a.HasLongInteger) (o.callText args) := by
  refine WritesUnless.congr (p := (∃ a ∈ args, a.HasLongInteger) ∨ False) ?_ (or_iff_left id)
  refine (WritesUnless.mapM writesUnless_argumentText args).bind fun texts => ?_
  split <;> exact .ok id _

theorem writesUnless_display (v : Value) : WritesUnless v.HasLongInteger (display v) := by
  unfold display
  split
  · exact .ok (Value.not_hasPart rfl id) _
  · exact .ok (Value.not_hasPart rfl id) _
  · exact Value.writesUnless_toText _

theorem writesUnless_describe (o : Operator) (args : List Value) (kind : EntryKind) (v : Value) :
    WritesUnless ((∃ a ∈ args, a.HasLongInteger) ∨ v.HasLongInteger) (describe o args kind v) :=
  (writesUnless_callText o args).bind fun _ => (writesUnless_display v).map _

theorem writesUnless_inputEntry (inputs : List Value) :
    WritesUnless (∃ v ∈ inputs, v.HasLongInteger) (inputEntry inputs) :=
  (WritesUnless.mapM writesUnless_display inputs).map _

end Trace

/-! ## Comparisons -/

namespace Operator

variable {o : Operator} {args : List Value} {v : Value}

/-- A simplification fails only where some part of an argument signals. -/
abbrev OnlySignalingIn {α : Type} (args : List Value) (x : Except Fault α) : Prop :=
  FailsOnly (fun f => f = .decimalInvalid ∧ ∃ a ∈ args, a.HasSignaling) x

theorem onlySignalingIn_sameValue (hargs : v ∈ args) {w : Value}
    (hw : w ∈ args ∨ ¬ w.HasSignaling) : OnlySignalingIn args (v.sameValue w) :=
  (Value.onlySignaling_sameValue v w).mono fun _ ⟨hf, hp⟩ => by
    refine ⟨hf, ?_⟩
    rcases hp with hv | hsignal
    · exact ⟨v, hargs, hv⟩
    · exact ⟨w, hw.resolve_right (not_not_intro hsignal), hsignal⟩

theorem onlySignalingIn_byIdentity (hid : ¬ o.identity.HasSignaling) (args : List Value) :
    OnlySignalingIn args (o.byIdentity args) := by
  unfold byIdentity
  split
  · next a b _ =>
    refine (onlySignalingIn_sameValue (by simp) (.inr hid)).bind fun right => .ite (.ok _) ?_
    refine .ite ((onlySignalingIn_sameValue (by simp) (.inr hid)).bind fun left => ?_) (.ok _)
    exact .ite (.ok _) (.ok _)
  · exact .ok _

theorem onlySignalingIn_anySame (hv : ¬ v.HasSignaling) (as : List Value) (has : as ⊆ args) :
    OnlySignalingIn args (anySame v as) := by
  induction as with
  | nil => exact .ok false
  | cons a as ih =>
    obtain ⟨ha, has⟩ := List.cons_subset.1 has
    exact (onlySignalingIn_sameValue ha (.inr hv)).bind fun same => .ite (.ok true) (ih has)

theorem onlySignalingIn_byAbsorbing (habs : ¬ o.keptAbsorbing.HasSignaling) (args : List Value) :
    OnlySignalingIn args (o.byAbsorbing args) :=
  .ite ((onlySignalingIn_anySame habs args (List.Subset.refl args)).bind fun _ =>
    .ite (.ok _) (.ok _)) (.ok _)

theorem onlySignalingIn_byIdempotence (o : Operator) (args : List Value) :
    OnlySignalingIn args (o.byIdempotence args) := by
  unfold byIdempotence
  split
  · exact (onlySignalingIn_sameValue (by simp) (.inl (by simp))).bind fun _ => .ite (.ok _) (.ok _)
  · exact .ok _

theorem onlySignalingIn_simplify? (hid : ¬ o.identity.HasSignaling)
    (habs : ¬ o.keptAbsorbing.HasSignaling) (args : List Value) :
    OnlySignalingIn args (o.simplify? args) := by
  unfold simplify?
  refine (onlySignalingIn_byIdentity hid args).bind fun v? => ?_
  cases v? with
  | some v => exact .ok _
  | none =>
    refine (onlySignalingIn_byAbsorbing habs args).bind fun w? => ?_
    cases w? with
    | some w => exact .ok _
    | none =>
      refine (onlySignalingIn_byIdempotence o args).bind fun u? => ?_
      cases u? <;> exact .ok _

end Operator

/-- The values that stand as identity and absorbing elements: none, integers, truth values and
texts. -/
def Value.isElement : Value → Bool
  | null | number (.int _) | bool _ | text _ => true
  | _ => false

theorem Value.not_hasSignaling_of_isElement {v : Value} (h : v.isElement = true)
    (holder : Holder) : ¬ v.HasSignaling ∧ ¬ (v.keptBy holder).HasSignaling := by
  unfold isElement at h
  split at h
  · exact ⟨not_hasPart rfl id, not_hasPart rfl id⟩
  · exact ⟨not_hasPart rfl id, not_hasPart rfl id⟩
  · exact ⟨not_hasPart rfl id, not_hasPart rfl id⟩
  · exact ⟨not_hasPart rfl id, not_hasPart rfl id⟩
  · cases h

theorem Registry.isElement_builtIn {now : DateTime} {o : Operator} (ho : o ∈ builtInOperators now) :
    o.identity.isElement = true ∧ o.absorbing.isElement = true := by
  have hall : (builtInOperators now).all
      (fun o => o.identity.isElement && o.absorbing.isElement) = true := rfl
  simpa using List.all_eq_true.1 hall o ho

theorem Registry.onlySignalingIn_simplify? {now : DateTime} {o : Operator}
    (ho : o ∈ builtInOperators now) (args : List Value) :
    Operator.OnlySignalingIn args (o.simplify? args) := by
  obtain ⟨hid, habs⟩ := isElement_builtIn ho
  exact Operator.onlySignalingIn_simplify?
    (Value.not_hasSignaling_of_isElement hid (.absorbing o.id)).1
    (Value.not_hasSignaling_of_isElement habs _).2 args

/-! ## Steps that cannot be prepared -/

namespace Step

/-- The value is no step: neither a step nor a map that names an operator. -/
def IsMalformed : Value → Prop
  | .step .. => False
  | .map entries => ∀ operator, namedOperator entries ≠ .text operator
  | _ => True

/-- The value can be read item by item. -/
def IsIterable : Value → Prop
  | .list _ | .tuple _ | .text _ | .map _ => True
  | _ => False

variable {raw v : Value} {g : Fault}

theorem itemsOf_eq_error_iff :
    itemsOf v = .error g ↔ ¬ IsIterable v ∧ g = .notIterable v.familyName := by
  cases v <;> simp [itemsOf, IsIterable, eq_comm]

theorem faulty_eq_error_iff {α : Type} {x : Except Fault α} :
    faulty x = .error (.fault g) ↔ x = .error g := by
  cases x <;> simp [faulty]

/-- A malformed step is shown in the failure that it is answered with. -/
theorem ofValue_of_isMalformed (h : IsMalformed raw) :
    ∃ failure : String → Failure, (∀ shown g, failure shown ≠ .fault g) ∧
      ofValue raw = (faulty raw.shown >>= fun shown => .error (failure shown)) := by
  unfold ofValue
  split
  · exact absurd h id
  · split
    · next hnamed => exact absurd hnamed (h _)
    · exact ⟨.stepWithoutOperator, nofun, rfl⟩
  · exact ⟨.notAStep, nofun, rfl⟩

/-- The arguments of a map that names an operator are read item by item. -/
theorem ofValue_map {entries : List (String × Value)} {operator : String}
    (h : namedOperator entries = .text operator) :
    ofValue (.map entries) =
      (faulty (itemsOf ((Value.lookup entries "args").getD (.tuple []))) >>= fun args =>
        .ok ⟨operator, args⟩) := by
  rw [ofValue, h]
  rfl

theorem ofValue_eq_fault_of_isMalformed (h : IsMalformed raw) :
    ofValue raw = .error (.fault g) ↔ g = .tooManyDigitsToWrite ∧ raw.HasLongInteger := by
  obtain ⟨failure, hfailure, hof⟩ := ofValue_of_isMalformed h
  rw [hof, Outcomes.bind_eq_error_iff, faulty_eq_error_iff, Value.writesUnless_shown raw g]
  exact or_iff_left fun ⟨shown, _, hshown⟩ => hfailure shown g (Except.error.inj hshown)

theorem ofValue_map_eq_fault {entries : List (String × Value)} {operator : String}
    (h : namedOperator entries = .text operator) :
    ofValue (.map entries) = .error (.fault g) ↔
      ∃ v, Value.lookup entries "args" = some v ∧ ¬ IsIterable v ∧
        g = .notIterable v.familyName := by
  rw [ofValue_map h, Outcomes.bind_eq_error_iff, faulty_eq_error_iff, itemsOf_eq_error_iff]
  cases Value.lookup entries "args" with
  | none => simp [IsIterable]
  | some v => simp

theorem named_of_not_isMalformed (h : ¬ IsMalformed raw) :
    (∃ operator args, raw = .step operator args) ∨
      ∃ entries operator, raw = .map entries ∧ namedOperator entries = .text operator := by
  unfold IsMalformed at h
  split at h
  · exact .inl ⟨_, _, rfl⟩
  · next entries =>
    obtain ⟨operator, hnamed⟩ := not_forall.1 h
    exact .inr ⟨entries, operator, rfl, not_not.1 hnamed⟩
  · exact absurd trivial h

/-- A value is read as a step but for arguments that cannot be read item by item and for a
malformed step that cannot be shown. -/
theorem ofValue_eq_fault_iff :
    ofValue raw = .error (.fault g) ↔
      (∃ entries operator v, raw = .map entries ∧ namedOperator entries = .text operator ∧
        Value.lookup entries "args" = some v ∧ ¬ IsIterable v ∧ g = .notIterable v.familyName) ∨
      (IsMalformed raw ∧ raw.HasLongInteger ∧ g = .tooManyDigitsToWrite) := by
  constructor
  · intro h
    by_cases hraw : IsMalformed raw
    · obtain ⟨hg, hlong⟩ := (ofValue_eq_fault_of_isMalformed hraw).1 h
      exact .inr ⟨hraw, hlong, hg⟩
    · rcases named_of_not_isMalformed hraw with
        ⟨operator, args, rfl⟩ | ⟨entries, operator, rfl, hnamed⟩
      · cases h
      · obtain ⟨v, hv⟩ := (ofValue_map_eq_fault hnamed).1 h
        exact .inl ⟨entries, operator, v, rfl, hnamed, hv⟩
  · rintro (⟨entries, operator, v, rfl, hnamed, hv⟩ | ⟨hraw, hlong, hg⟩)
    · exact (ofValue_map_eq_fault hnamed).2 ⟨v, hv⟩
    · exact (ofValue_eq_fault_of_isMalformed hraw).2 ⟨hg, hlong⟩

/-- A reference that is not there is written in the failure that it is answered with. -/
theorem resolveArgument_eq_fault_iff {operator : String} {values : List Value} {arg : Value} :
    resolveArgument operator values arg = .error (.fault g) ↔
      ∃ i, reference? arg = some i ∧ place? i values.length = none ∧ i.HasLongInteger ∧
        g = .tooManyDigitsToWrite := by
  unfold resolveArgument
  cases reference? arg with
  | none => simp
  | some i =>
    dsimp only
    cases hplace : place? i values.length with
    | some place => simp [hplace]
    | none =>
      rw [Outcomes.bind_eq_error_iff, faulty_eq_error_iff, Value.writesUnless_shown i g]
      constructor
      · rintro (⟨hg, hlong⟩ | ⟨_, _, h⟩)
        · exact ⟨i, rfl, hplace, hlong, hg⟩
        · cases h
      · rintro ⟨_, ⟨⟩, _, hlong, hg⟩
        exact .inl ⟨hg, hlong⟩

end Step

/-! ## The end of a step -/

namespace Trace

variable {r : Registry} {now : DateTime} {n : Nat} {raw : Value} {values : List Value}
  {o : Operator} {args : List Value} {f : Failure} {g : Fault}

/-- The failure is recorded in a trace, or is a fault. -/
def IsRecordedOrFault (f : Failure) : Prop := isRecorded f = true ∨ ∃ g, f = .fault g

theorem failsOnly_faulty {α : Type} (x : Except Fault α) :
    FailsOnly IsRecordedOrFault (Step.faulty x) := by
  cases x with
  | error g => exact .error (.inr ⟨g, rfl⟩)
  | ok a => exact .ok a

theorem failsOnly_ofValue (raw : Value) : FailsOnly IsRecordedOrFault (Step.ofValue raw) := by
  unfold Step.ofValue
  split
  · exact .ok _
  · split
    · exact (failsOnly_faulty _).bind fun _ => .ok _
    · exact (failsOnly_faulty _).bind fun _ => .error (.inl rfl)
  · exact (failsOnly_faulty _).bind fun _ => .error (.inl rfl)

theorem failsOnly_resolve (s : Step) (values : List Value) :
    FailsOnly IsRecordedOrFault (s.resolve values) := by
  refine FailsOnly.mapM (fun arg => ?_) _
  unfold Step.resolveArgument
  split
  · exact .ok _
  · split
    · exact .ok _
    · exact (failsOnly_faulty _).bind fun _ => .error (.inl rfl)

theorem failsOnly_get (r : Registry) (id : String) :
    FailsOnly (fun f => isRecorded f = true) (r.get id) := by
  unfold Registry.get
  split
  · exact .ok _
  · exact .error rfl

theorem failsOnly_prepare (r : Registry) (raw : Value) (values : List Value) :
    FailsOnly IsRecordedOrFault (prepare r raw values) := by
  refine (failsOnly_ofValue raw).bind fun s => ?_
  refine ((failsOnly_get r s.operator).mono fun _ => .inl).bind fun o => ?_
  refine FailsOnly.bind (.ite (.ok _) (.error (.inl rfl))) fun _ => ?_
  exact (failsOnly_resolve s values).bind fun _ => .ok _

theorem not_fault_checkCount (o : Operator) (count : Nat) :
    Step.checkCount o count ≠ .error (.fault g) := by
  unfold Step.checkCount
  split <;> nofun

/-- Faults come from reading the step and from its references. -/
theorem prepare_eq_fault_iff :
    prepare r raw values = .error (.fault g) ↔
      Step.ofValue raw = .error (.fault g) ∨
        ∃ s o, Ready r raw (s, o) ∧ s.resolve values = .error (.fault g) := by
  constructor
  · intro h
    rcases Outcomes.bind_eq_error_iff.1 h with h | ⟨s, hs, h⟩
    · exact .inl h
    rcases Outcomes.bind_eq_error_iff.1 h with h | ⟨o, ho, h⟩
    · cases failsOnly_get r _ _ h
    rcases Outcomes.bind_eq_error_iff.1 h with h | ⟨_, hcount, h⟩
    · exact absurd h (not_fault_checkCount o _)
    rcases Outcomes.bind_eq_error_iff.1 h with h | ⟨args, -, h⟩
    · exact .inr ⟨s, o, ⟨hs, ho, checkCount_eq_ok_iff.1 hcount⟩, h⟩
    · cases h
  · rintro (h | ⟨s, o, hready, h⟩)
    · rw [prepare, h]
      rfl
    · rw [prepare_of_ready hready, h]
      rfl

theorem fault_of_not_isRecorded (h : prepare r raw values = .error f)
    (hrec : isRecorded f = false) : ∃ g, f = .fault g := by
  refine (failsOnly_prepare r raw values f h).resolve_left fun hrec' => ?_
  rw [hrec] at hrec'
  cases hrec'

/-- The rule of a built-in operator fails as an evaluation does, or for want of memory. -/
theorem outOfMemory_of_guarded (ho : o ∈ builtInOperators now)
    (hcount : o.accepts args.length = true) (h : Run.guarded o (o.rule args) = .error f)
    (hkind : f.isKind .evaluation = false) :
    f = .fault .outOfMemory ∧ o.rule args = .error (.fault .outOfMemory) ∧ o.id = "REPT" ∧
      Texts.ExceedsRoom args := by
  cases hrule : o.rule args with
  | ok v =>
    rw [hrule] at h
    cases h
  | error e =>
    rw [hrule] at h
    cases answers_builtIn now o ho args hcount e hrule with
    | divisionByZero id =>
      cases h
      cases hkind
    | answered hanswered =>
      unfold Run.guarded at h
      dsimp only at h
      rw [if_pos hanswered] at h
      cases h
      cases hkind
    | outOfMemory hid hroom =>
      cases h
      exact ⟨rfl, rfl, hid, hroom⟩

/-- The faults that escape from a step on the values so far. -/
inductive Escapes (r : Registry) (raw : Value) (values : List Value) : Fault → Prop
  /-- The arguments of a map cannot be read item by item. -/
  | notIterable {entries : List (String × Value)} {operator : String} {v : Value} :
      raw = .map entries → Step.namedOperator entries = .text operator →
      Value.lookup entries "args" = some v → ¬ Step.IsIterable v →
      Escapes r raw values (.notIterable v.familyName)
  /-- A malformed step cannot be shown. -/
  | notShown : Step.IsMalformed raw → raw.HasLongInteger →
      Escapes r raw values .tooManyDigitsToWrite
  /-- A reference that is not there cannot be written; the arguments before it are resolved. -/
  | notReferred {s : Step} {o : Operator} {before after args : List Value} {arg i : Value} :
      Ready r raw (s, o) → s.args = before ++ arg :: after →
      before.mapM (Step.resolveArgument s.operator values) = .ok args →
      Step.reference? arg = some i → Step.place? i values.length = none → i.HasLongInteger →
      Escapes r raw values .tooManyDigitsToWrite
  /-- A simplification compares an argument some part of which signals. -/
  | notCompared {o : Operator} {args : List Value} :
      prepare r raw values = .ok (o, args) → o.simplify? args = .error .decimalInvalid →
      (∃ a ∈ args, a.HasSignaling) → Escapes r raw values .decimalInvalid
  /-- A text is repeated to more characters than there is room for. -/
  | outOfMemory {o : Operator} {args : List Value} :
      prepare r raw values = .ok (o, args) → o.simplify? args = .ok none →
      o.rule args = .error (.fault .outOfMemory) → o.id = "REPT" → Texts.ExceedsRoom args →
      Escapes r raw values .outOfMemory
  /-- An argument or the value cannot be written in the description. -/
  | notWritten {o : Operator} {args : List Value} {kind : EntryKind} {v : Value} :
      prepare r raw values = .ok (o, args) → answer o args = .ok (kind, v) →
      (∃ a ∈ args, a.HasLongInteger) ∨ v.HasLongInteger →
      Escapes r raw values .tooManyDigitsToWrite

theorem mem_of_prepare (h : prepare (.builtIn now) raw values = .ok (o, args)) :
    o ∈ builtInOperators now := by
  obtain ⟨s, hready, -⟩ := prepare_eq_ok_iff.1 h
  exact (Registry.mem_of_get hready.found).1

/-- A step over the built-in operators fails just with the faults that escape from it. -/
theorem runStep_eq_error_iff :
    (runStep (.builtIn now) n raw values).outcome = .error f ↔
      ∃ g, f = .fault g ∧ Escapes (.builtIn now) raw values g := by
  constructor
  · intro h
    cases runStep_eq_iff.1 h with
    | preparing hprep hrec =>
      obtain ⟨g, rfl⟩ := fault_of_not_isRecorded hprep hrec
      refine ⟨g, rfl, ?_⟩
      rcases prepare_eq_fault_iff.1 hprep with hread | ⟨s, o, hready, hresolve⟩
      · rcases Step.ofValue_eq_fault_iff.1 hread with
          ⟨entries, operator, v, hraw, hnamed, hargs, hv, rfl⟩ | ⟨hraw, hlong, rfl⟩
        · exact .notIterable hraw hnamed hargs hv
        · exact .notShown hraw hlong
      · obtain ⟨before, arg, after, args, hsplit, hbefore, harg⟩ :=
          Outcomes.mapM_eq_error_iff.1 hresolve
        obtain ⟨i, href, hplace, hlong, rfl⟩ := Step.resolveArgument_eq_fault_iff.1 harg
        exact .notReferred hready hsplit hbefore href hplace hlong
    | answering hprep hans hkind =>
      have ho := mem_of_prepare hprep
      rcases answer_eq_error_iff.1 hans with ⟨g, hs, rfl⟩ | ⟨hs, hrule⟩
      · obtain ⟨rfl, hsignal⟩ := Registry.onlySignalingIn_simplify? ho _ g hs
        exact ⟨_, rfl, .notCompared hprep hs hsignal⟩
      · obtain ⟨rfl, hmemory, hid, hroom⟩ := outOfMemory_of_guarded ho (accepts_of_prepare hprep) hrule hkind
        exact ⟨_, rfl, .outOfMemory hprep hs hmemory hid hroom⟩
    | describing hprep hans htext =>
      obtain ⟨rfl, hlong⟩ := (writesUnless_describe _ _ _ _ _).1 htext
      exact ⟨_, rfl, .notWritten hprep hans hlong⟩
  · rintro ⟨g, rfl, h⟩
    refine runStep_eq_iff.2 ?_
    cases h with
    | notIterable hraw hnamed hargs hv =>
      have hread := Step.ofValue_eq_fault_iff.2 (.inl ⟨_, _, _, hraw, hnamed, hargs, hv, rfl⟩)
      exact .preparing (prepare_eq_fault_iff.2 (.inl hread)) rfl
    | notShown hraw hlong =>
      have hread := Step.ofValue_eq_fault_iff.2 (.inr ⟨hraw, hlong, rfl⟩)
      exact .preparing (prepare_eq_fault_iff.2 (.inl hread)) rfl
    | @notReferred s o before after args arg i hready hsplit hbefore href hplace hlong =>
      have harg : Step.resolveArgument s.operator values arg =
          .error (.fault .tooManyDigitsToWrite) :=
        Step.resolveArgument_eq_fault_iff.2 ⟨i, href, hplace, hlong, rfl⟩
      have hresolve : s.resolve values = .error (.fault .tooManyDigitsToWrite) :=
        Outcomes.mapM_eq_error_iff.2 ⟨before, arg, after, args, hsplit, hbefore, harg⟩
      exact .preparing (prepare_eq_fault_iff.2 (.inr ⟨s, o, hready, hresolve⟩)) rfl
    | notCompared hprep hs =>
      exact .answering hprep (answer_eq_error_iff.2 (.inl ⟨_, hs, rfl⟩)) rfl
    | outOfMemory hprep hs hmemory =>
      refine .answering hprep (answer_eq_error_iff.2 (.inr ⟨hs, ?_⟩)) rfl
      rw [hmemory]
      rfl
    | notWritten hprep hans hlong =>
      exact .describing hprep hans ((writesUnless_describe _ _ _ _ _).2 ⟨rfl, hlong⟩)

end Trace

end RecordCalc
