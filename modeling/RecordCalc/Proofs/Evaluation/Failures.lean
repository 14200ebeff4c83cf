import RecordCalc.Proofs.Evaluation.Calls
import RecordCalc.Proofs.Evaluation.Run
import RecordCalc.Proofs.Formula.Parts
import RecordCalc.Proofs.Operator.Faults

/-
  The faults that evaluation leaves to its caller. With the built-in operators there are two: a cell
  that is read has an integer time beyond the floating-point numbers, or a text is repeated beyond
  the memory (`contained_eval`).
-/

namespace RecordCalc

open Calendar (DateTime)

/-! ## Times of observations -/

namespace Value

/-- An integer beyond the floating-point numbers. -/
def IsFar (v : Value) : Prop := ∃ n, v = int n ∧ Binary64.ofInt? n = none

/-- The fault of a time among some observations that is far. -/
def FarAmong (observations : List (Value × Value)) (f : Fault) : Prop :=
  f = .integerTooLarge ∧ ∃ o ∈ observations, o.2.IsFar

/-- The raw value of a record holds an observation with a time that is far. -/
def HasFarTime (raw : Value) : Prop :=
  ∃ observations, observations? raw = some observations ∧ ∃ o ∈ observations, o.2.IsFar

theorem failsOnly_timestampKey (t : Value) :
    FailsOnly (fun f => f = .integerTooLarge ∧ t.IsFar) (timestampKey t) := by
  unfold timestampKey
  split <;> try exact .ok _
  next n =>
    refine FailsOnly.map ?_ _
    cases n with
    | int n =>
      rw [Number.toFloat, Number.floatOfInt]
      cases hx : Binary64.ofInt? n with
      | some x => exact .ok x
      | none => exact .error ⟨rfl, n, rfl, hx⟩
    | float x => exact .ok x
    | nan origin => exact .ok _

/-- Reading the time of an observation, and going on with those behind it. -/
theorem failsOnly_cons (o : Value × Value) {rest : List (Value × Value)}
    {g : Option Float → Except Fault Value} (hg : ∀ key, FailsOnly (FarAmong rest) (g key)) :
    FailsOnly (FarAmong (o :: rest)) (timestampKey o.2 >>= g) := by
  refine FailsOnly.bind ((failsOnly_timestampKey o.2).mono ?_) fun key => (hg key).mono ?_
  · rintro f ⟨hf, hfar⟩
    exact ⟨hf, o, List.mem_cons_self, hfar⟩
  · rintro f ⟨hf, o', ho', hfar⟩
    exact ⟨hf, o', List.mem_cons_of_mem _ ho', hfar⟩

theorem failsOnly_dominantFrom (best : Value) (key : Option Float)
    (observations : List (Value × Value)) :
    FailsOnly (FarAmong observations) (dominantFrom best key observations) := by
  induction observations generalizing best key with
  | nil => exact .ok best
  | cons o rest ih => exact failsOnly_cons o fun next => .ite (ih _ _) (ih _ _)

/-- A raw value fails to resolve only if a time in it is far. -/
theorem failsOnly_resolveCell (raw : Value) :
    FailsOnly (fun f => f = .integerTooLarge ∧ raw.HasFarTime) raw.resolveCell := by
  unfold resolveCell
  cases hraw : observations? raw with
  | none => exact .ok raw
  | some observations =>
    have hvalue : FailsOnly (FarAmong observations) (dominantValue observations) := by
      cases observations with
      | nil => exact .ok null
      | cons o rest => exact failsOnly_cons o fun key => failsOnly_dominantFrom o.1 key rest
    exact hvalue.mono fun f hf => ⟨hf.1, observations, hraw, hf.2⟩

end Value

/-! ## Numbers of arguments -/

namespace Registry

/-- The ids of the operators that stand between operands. -/
def pairIds : List String := BinaryOp.all.filterMap (·.operatorId?)

/-- What tells which arguments evaluation gives an operator, and how many the operator takes. -/
def header (o : Operator) : (String × Category) × Arity × Int :=
  ((o.id, o.category), o.arity, o.minArity)

theorem header_builtInOperators (now : DateTime) :
    (builtInOperators now).map header = (builtInOperators epoch).map header := rfl

section
variable {now : DateTime} {o : Operator}

/-- What holds of all headers holds of the header of each operator. -/
theorem of_header {P : (String × Category) × Arity × Int → Prop} (ho : o ∈ builtInOperators now)
    (hall : ∀ c ∈ (builtInOperators epoch).map header, P c) : P (header o) := by
  rw [← header_builtInOperators now] at hall
  exact hall _ (List.mem_map_of_mem ho)

theorem accepts_pair (ho : o ∈ builtInOperators now) (h : o.id ∈ pairIds) : o.accepts 2 = true := by
  have hcount := of_header ho (P := fun c =>
    c.1.1 ∈ pairIds → c.2 = (.fixed 2, 2) ∨ c.2 = (.variadic, 1)) (by decide +kernel) h
  rcases hcount with hcount | hcount
  · obtain ⟨harity, hmin⟩ := Prod.mk.inj hcount
    rw [Operator.accepts, harity, hmin]
    rfl
  · obtain ⟨harity, hmin⟩ := Prod.mk.inj hcount
    rw [Operator.accepts, harity, hmin]
    rfl

theorem arity_comparison (ho : o ∈ builtInOperators now) (h : o.category = .comparison) :
    o.arity = .fixed 2 ∧ o.minArity = 2 :=
  Prod.mk.inj (of_header ho (P := fun c => c.1.2 = .comparison → c.2 = (.fixed 2, 2))
    (by decide +kernel) h)

theorem arity_leading (ho : o ∈ builtInOperators now) (h : o.id = "NEGATE" ∨ o.id = "NOT") :
    o.arity = .fixed 1 ∧ o.minArity = 1 :=
  Prod.mk.inj (of_header ho (P := fun c =>
    c.1.1 = "NEGATE" ∨ c.1.1 = "NOT" → c.2 = (.fixed 1, 1)) (by decide +kernel) h)

theorem arity_if (ho : o ∈ builtInOperators now) (h : o.id = "IF") :
    o.arity = .fixed 3 ∧ o.minArity = 2 :=
  Prod.mk.inj (of_header ho (P := fun c => c.1.1 = "IF" → c.2 = (.fixed 3, 2))
    (by decide +kernel) h)

end

end Registry

/-! ## What evaluation leaves to its caller -/

/-- The faults that an evaluation may leave to its caller, of the fields that it reads and the rules
that it applied. -/
inductive Escapes (record : Record) (names : List String) (uses : List RuleUse) : Fault → Prop
  | farTime {name : String} : name ∈ names → (record.get name).HasFarTime →
      Escapes record names uses .integerTooLarge
  | exceedsRoom {use : RuleUse} : use ∈ uses → use.operator = "REPT" →
      Texts.ExceedsRoom use.args → Escapes record names uses .outOfMemory

namespace Run

/-- The run comes to no fault but those that an evaluation may leave to its caller. -/
def Contained {α : Type} (record : Record) (names : List String) (r : Run α) : Prop :=
  ∀ f, r.outcome = .error (.fault f) → Escapes record names r.uses f

section
variable {α β : Type} {record : Record} {names : List String}

theorem contained_done (a : α) : (done a).Contained record names := fun _ h => nomatch h

theorem contained_fail {f : Failure} (hf : ∀ fault, f ≠ .fault fault) :
    (fail f : Run α).Contained record names := by
  rintro fault ⟨⟩
  exact absurd rfl (hf fault)

theorem Contained.bind {r : Run α} {f : α → Run β} (hr : r.Contained record names)
    (hf : ∀ a, r.outcome = .ok a → (f a).Contained record names) :
    (r >>= f).Contained record names := by
  obtain ⟨outcome, uses⟩ := r
  intro fault hfault
  cases outcome with
  | error e =>
    cases hfault
    exact hr fault rfl
  | ok a =>
    cases hf a rfl fault hfault with
    | farTime hname hfar => exact .farTime hname hfar
    | exceedsRoom huse hid hroom => exact .exceedsRoom (List.mem_append_right _ huse) hid hroom

theorem Contained.ite {c : Prop} [Decidable c] {r r' : Run α} (hr : r.Contained record names)
    (hr' : r'.Contained record names) : (if c then r else r').Contained record names := by
  split
  · exact hr
  · exact hr'

theorem Contained.mono {names' : List String} {r : Run α} (h : r.Contained record names)
    (hnames : ∀ name ∈ names, name ∈ names') : r.Contained record names' := by
  intro fault hfault
  cases h fault hfault with
  | farTime hname hfar => exact .farTime (hnames _ hname) hfar
  | exceedsRoom huse hid hroom => exact .exceedsRoom huse hid hroom

/-- The rule of a built-in operator is contained, given as many arguments as the operator
accepts. -/
theorem contained_applyRule {now : DateTime} {o : Operator} (ho : o ∈ builtInOperators now)
    {args : List Value} (hargs : o.accepts args.length = true) :
    (applyRule o args).Contained record names := by
  intro fault hfault
  have hanswers := answers_builtIn now o ho args hargs
  unfold applyRule guarded at hfault
  cases hrule : o.rule args with
  | ok v =>
    rw [hrule] at hfault
    cases hfault
  | error e =>
    rw [hrule] at hfault
    cases hanswers e hrule with
    | divisionByZero id => cases hfault
    | answered hanswered =>
      dsimp only at hfault
      rw [if_pos hanswered] at hfault
      cases hfault
    | outOfMemory hid hroom =>
      cases hfault
      exact .exceedsRoom (List.mem_singleton_self _) hid hroom

end

end Run

/-! ## Applying operators -/

namespace Evaluator

section
variable {ev : Evaluator} {now : DateTime} {record : Record} {names : List String} {o : Operator}

theorem contained_apply (ho : o ∈ builtInOperators now) {args : List Value}
    (hargs : o.accepts args.length = true) : (ev.apply o args).Contained record names := by
  have hrule : (Run.applyRule o args).Contained record names := Run.contained_applyRule ho hargs
  unfold apply
  dsimp only
  split
  · split
    · exact fun _ h => nomatch h
    · exact hrule
  · exact hrule

theorem contained_arithmetic (ho : o ∈ builtInOperators now) (htwo : o.accepts 2 = true)
    (a b : Value) : (ev.arithmetic o a b).Contained record names := by
  unfold arithmetic
  split
  · split
    · exact Run.contained_done _
    · exact Run.contained_done _
    · exact contained_apply ho htwo
  · exact contained_apply ho htwo

theorem contained_comparison (ho : o ∈ builtInOperators now) (htwo : o.accepts 2 = true)
    (a b : Value) : (ev.comparison o a b).Contained record names :=
  .ite (Run.contained_done _) (contained_apply ho htwo)

/-- Going on with an operator that is looked up. -/
theorem contained_get (hreg : ev.registry = .builtIn now) {id : String} {f : Operator → Run Value}
    (hf : ∀ o ∈ builtInOperators now, o.id = id → (f o).Contained record names) :
    (Run.ofExcept (ev.registry.get id) >>= f).Contained record names := by
  refine Run.Contained.bind (fun fault hfault => ?_) fun o hget => ?_
  · have hget : ev.registry.get id = .error (.fault fault) := hfault
    unfold Registry.get at hget
    split at hget <;> cases hget
  · have hget : ev.registry.get id = .ok o := hget
    rw [hreg] at hget
    obtain ⟨ho, hid⟩ := Registry.mem_of_get hget
    exact hf o ho hid

theorem mem_pairIds {op : BinaryOp} {id : String} (h : op.operatorId? = some id) :
    id ∈ Registry.pairIds := by
  cases op <;> cases h <;> decide

theorem contained_applyBinary (hreg : ev.registry = .builtIn now) (op : BinaryOp) (a b : Value) :
    (ev.applyBinary op a b).Contained record names := by
  unfold applyBinary
  split
  · exact Run.contained_fail fun _ h => nomatch h
  · next id hid =>
    refine contained_get hreg fun o ho hoid => ?_
    have htwo := Registry.accepts_pair ho (hoid ▸ mem_pairIds hid)
    exact .ite (contained_arithmetic ho htwo a b)
      (.ite (contained_comparison ho htwo a b) (contained_apply ho htwo))

theorem accepts_leading (ho : o ∈ builtInOperators now) (h : o.id = "NEGATE" ∨ o.id = "NOT") :
    o.accepts 1 = true := by
  obtain ⟨harity, hmin⟩ := Registry.arity_leading ho h
  rw [Operator.accepts, harity, hmin]
  rfl

theorem contained_applyUnary (hreg : ev.registry = .builtIn now) (op : UnaryOp) (v : Value) :
    (ev.applyUnary op v).Contained record names := by
  have hleading : ∀ id v, id = "NEGATE" ∨ id = "NOT" →
      (Run.ofExcept (ev.registry.get id) >>= fun o => ev.apply o [v]).Contained record names :=
    fun id v hid => contained_get hreg fun o ho hoid =>
      contained_apply ho (accepts_leading ho (hoid ▸ hid))
  cases op with
  | negate =>
    unfold applyUnary
    dsimp only
    split
    · split
      · exact Run.contained_done _
      · exact hleading "NEGATE" _ (.inl rfl)
    · exact hleading "NEGATE" v (.inl rfl)
  | plus => exact Run.contained_done _
  | not => exact .ite (Run.contained_done _) (hleading "NOT" v (.inr rfl))
  | other symbol => exact Run.contained_fail fun _ h => nomatch h

/-- A call is contained, given as many values as the operator accepts. -/
theorem contained_applyCall (ho : o ∈ builtInOperators now) {args : List Value}
    (hargs : o.accepts args.length = true) : (ev.applyCall o args).Contained record names := by
  unfold applyCall
  split
  · exact contained_arithmetic ho hargs _ _
  · split
    · next hcategory =>
      obtain ⟨harity, hmin⟩ := Registry.arity_comparison ho hcategory
      obtain ⟨a, b, rfl⟩ := Operator.exists_pair harity hmin hargs
      exact contained_comparison ho hargs a b
    · split
      · next hnot =>
        have hid : o.id = "NOT" := of_decide_eq_true (Bool.and_eq_true_iff.1 hnot).1
        obtain ⟨harity, hmin⟩ := Registry.arity_leading ho (.inr hid)
        obtain ⟨hlow, -⟩ := Operator.length_of_accepts (m := 1) (n := 1) harity hmin hargs
        obtain ⟨a, rest, rfl⟩ := List.exists_cons_of_length_pos hlow
        exact Run.contained_done _
      · exact contained_apply ho hargs

/-! ## Functions that may leave arguments unevaluated -/

variable {eval : Expr → Run Value} {args : List Expr}

theorem contained_chooseBranch (h : ∀ e ∈ args, (eval e).Contained record names)
    (hargs : 2 ≤ args.length) : (ev.chooseBranch eval args).Contained record names := by
  match args with
  | [] | [_] => simp at hargs
  | condition :: yes :: branches =>
    have hyes : (eval yes).Contained record names := h yes (by simp)
    refine (h condition List.mem_cons_self).bind fun v _ => .ite hyes ?_
    cases branches with
    | nil => exact Run.contained_done _
    | cons no rest => exact h no (by simp)

theorem contained_allTrue (h : ∀ e ∈ args, (eval e).Contained record names) :
    (allTrue eval args).Contained record names := by
  induction args with
  | nil => exact Run.contained_done _
  | cons e es ih =>
    obtain ⟨he, hes⟩ := List.forall_mem_cons.1 h
    exact he.bind fun v _ => .ite (ih hes) (Run.contained_done _)

theorem contained_anyTrue (h : ∀ e ∈ args, (eval e).Contained record names) :
    (anyTrue eval args).Contained record names := by
  induction args with
  | nil => exact Run.contained_done _
  | cons e es ih =>
    obtain ⟨he, hes⟩ := List.forall_mem_cons.1 h
    exact he.bind fun v _ => .ite (Run.contained_done _) (ih hes)

theorem contained_upTo (h : ∀ e ∈ args, (eval e).Contained record names) (stop sofar : Truth) :
    (ev.upTo eval stop sofar args).Contained record names := by
  induction args generalizing sofar with
  | nil => exact Run.contained_done _
  | cons e es ih =>
    obtain ⟨he, hes⟩ := List.forall_mem_cons.1 h
    exact he.bind fun v _ => .ite (Run.contained_done _) (ih hes _)

theorem contained_conjunction (h : ∀ e ∈ args, (eval e).Contained record names) :
    (ev.conjunction eval .yes args).Contained record names := by
  rw [conjunction_eq_upTo ev eval (by decide)]
  exact contained_upTo h .no .yes

theorem contained_disjunction (h : ∀ e ∈ args, (eval e).Contained record names) :
    (ev.disjunction eval .no args).Contained record names := by
  rw [disjunction_eq_upTo ev eval (by decide)]
  exact contained_upTo h .yes .no

theorem contained_lazy (ho : o ∈ builtInOperators now) (hargs : o.accepts args.length = true)
    (h : ∀ e ∈ args, (eval e).Contained record names)
    {run : (Expr → Run Value) → List Expr → Run Value} (hrun : ev.lazy? o.id = some run) :
    (run eval args).Contained record names := by
  unfold lazy? at hrun
  split at hrun
  · next hid =>
    cases hrun
    obtain ⟨harity, hmin⟩ := Registry.arity_if ho hid
    obtain ⟨hlow, -⟩ := Operator.length_of_accepts (m := 2) (n := 3) harity hmin hargs
    exact contained_chooseBranch h hlow
  · split at hrun
    · cases hrun
      split
      · exact contained_conjunction h
      · exact contained_allTrue h
    · split at hrun
      · cases hrun
        split
        · exact contained_disjunction h
        · exact contained_anyTrue h
      · split at hrun
        · cases hrun
          exact contained_conjunction h
        · split at hrun
          · cases hrun
            exact contained_disjunction h
          · cases hrun

/-! ## Expressions -/

theorem contained_evalAll (h : ∀ e ∈ args, (eval e).Contained record names) :
    (evalAll eval args).Contained record names := by
  induction args with
  | nil => exact Run.contained_done _
  | cons e es ih =>
    obtain ⟨he, hes⟩ := List.forall_mem_cons.1 h
    exact he.bind fun v _ => (ih hes).bind fun vs _ => Run.contained_done _

theorem length_evalAll {vs : List Value} (h : (evalAll eval args).outcome = .ok vs) :
    vs.length = args.length := by
  induction args generalizing vs with
  | nil =>
    cases h
    rfl
  | cons e es ih =>
    obtain ⟨v, -, h⟩ := Run.bind_outcome_ok h
    obtain ⟨rest, hrest, h⟩ := Run.bind_outcome_ok h
    cases h
    rw [List.length_cons, List.length_cons, ih hrest]

theorem contained_evalCall (hreg : ev.registry = .builtIn now) (name : String)
    (h : ∀ e ∈ args, (eval e).Contained record names) :
    (ev.evalCall eval name args).Contained record names := by
  unfold evalCall
  split
  · exact Run.contained_fail fun _ h => nomatch h
  · next o hresolve =>
    rw [hreg] at hresolve
    have ho := Registry.mem_of_resolve? hresolve
    cases haccepts : o.accepts args.length with
    | false => exact Run.contained_fail fun _ h => nomatch h
    | true =>
      simp only [Bool.not_true, Bool.false_eq_true, if_false]
      split
      · next run hrun =>
        split at hrun
        · exact contained_lazy ho haccepts h hrun
        · cases hrun
      · refine (contained_evalAll h).bind fun vs hvs => contained_applyCall ho ?_
        rw [length_evalAll hvs]
        exact haccepts

theorem contained_evalStep (hreg : ev.registry = .builtIn now) (record : Record)
    (h : ∀ e, (eval e).Contained record e.fields) (e : Expr) :
    (ev.evalStep record eval e).Contained record e.fields := by
  have hparts : ∀ p ∈ e.parts, (eval p).Contained record e.fields := by
    intro p hp
    refine (h p).mono fun name hname => ?_
    rw [Expr.mem_fields] at hname ⊢
    exact Expr.references_of_mem_parts hp hname
  cases e with
  | literal v => exact Run.contained_done v
  | field name =>
    intro fault hfault
    have hresolve : (record.get name).resolveCell = .error fault :=
      Run.ofFaulty_outcome_fault hfault
    obtain ⟨rfl, hfar⟩ := Value.failsOnly_resolveCell _ fault hresolve
    exact .farTime (by simp [Expr.references]) hfar
  | call name args => exact contained_evalCall hreg name hparts
  | binary op l r =>
    exact (hparts l (by simp [Expr.parts])).bind fun a _ =>
      (hparts r (by simp [Expr.parts])).bind fun b _ => contained_applyBinary hreg op a b
  | unary op e =>
    exact (hparts e (by simp [Expr.parts])).bind fun v _ => contained_applyUnary hreg op v
  | bare v =>
    refine Run.contained_fail fun fault h => ?_
    cases h

/-- Evaluation with the built-in operators leaves nothing to its caller but far times in the fields
that it reads and texts that are too long for the memory. -/
theorem contained_eval (hreg : ev.registry = .builtIn now) (record : Record) (e : Expr) :
    (ev.eval record e).Contained record e.fields := by
  -- by induction on the levels: each lends its evaluation of the parts to the next
  have hwithin : ∀ levels e, (ev.evalWithin record levels e).Contained record e.fields := by
    intro levels
    induction levels with
    | zero => exact fun e => Run.contained_fail fun _ h => nomatch h
    | succ n ih => exact contained_evalStep hreg record ih
  exact hwithin levelLimit e

end

end Evaluator

end RecordCalc
