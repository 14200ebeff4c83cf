import RecordCalc.Proofs.Operator.BuiltIn
import RecordCalc.Proofs.Value.Writing

/-
  The failures of the rules of the built-in operators. Given as many arguments as its operator
  accepts, a rule fails with a division by zero, with a fault that the operator answers for, or, if
  it repeats a text, for want of memory (`answers_builtIn`); and given whatever arguments, with no
  report of its own (`isReportless_builtIn`).
-/

namespace RecordCalc

open Calendar (DateTime)

/-- A repetition of a text to more characters than there is room for in memory. -/
def Texts.ExceedsRoom (args : List Value) : Prop :=
  ∃ v count cs, args = [v, count] ∧ charsOf v = .ok cs ∧
    Fault.roomLimit < cs.length * (count.toInteger 0).toNat

namespace Operator

/-- What the rule of an operator may fail with. -/
inductive MayRaise (o : Operator) (args : List Value) : Failure → Prop
  | divisionByZero (id : String) : MayRaise o args (.divisionByZero id)
  | answered {f : Fault} : f.kind.isOperatorFault = true → MayRaise o args (.fault f)
  | outOfMemory : o.id = "REPT" → Texts.ExceedsRoom args → MayRaise o args (.fault .outOfMemory)

/-- With as many arguments as the operator accepts, its rule fails in no other way than rules
may. -/
def Answers (o : Operator) : Prop :=
  ∀ args : List Value, o.accepts args.length = true → FailsOnly (o.MayRaise args) (o.rule args)

section
variable {o : Operator} {args : List Value}

theorem length_of_accepts {m n : Nat} (harity : o.arity = .fixed n) (hmin : o.minArity = m)
    {count : Nat} (h : o.accepts count = true) : m ≤ count ∧ count ≤ n := by
  simp only [accepts, harity, hmin, Bool.and_eq_true, decide_eq_true_eq] at h
  omega

theorem exists_one (harity : o.arity = .fixed 1) (hmin : o.minArity = 1)
    (hargs : o.accepts args.length = true) : ∃ a, args = [a] := by
  obtain ⟨hlow, hhigh⟩ := length_of_accepts (m := 1) (n := 1) harity hmin hargs
  exact List.length_eq_one_iff.1 (Nat.le_antisymm hhigh hlow)

theorem exists_pair (harity : o.arity = .fixed 2) (hmin : o.minArity = 2)
    (hargs : o.accepts args.length = true) : ∃ a b, args = [a, b] := by
  obtain ⟨hlow, hhigh⟩ := length_of_accepts (m := 2) (n := 2) harity hmin hargs
  exact List.length_eq_two.1 (Nat.le_antisymm hhigh hlow)

theorem exists_triple (harity : o.arity = .fixed 3) (hmin : o.minArity = 3)
    (hargs : o.accepts args.length = true) : ∃ a b c, args = [a, b, c] := by
  obtain ⟨hlow, hhigh⟩ := length_of_accepts (m := 3) (n := 3) harity hmin hargs
  exact List.length_eq_three.1 (Nat.le_antisymm hhigh hlow)

theorem none_or_one (harity : o.arity = .fixed 1) (hmin : o.minArity = 0)
    (hargs : o.accepts args.length = true) : args = [] ∨ ∃ a, args = [a] := by
  obtain ⟨-, hhigh⟩ := length_of_accepts (m := 0) (n := 1) harity hmin hargs
  rcases Nat.le_one_iff_eq_zero_or_eq_one.1 hhigh with h | h
  · exact .inl (List.length_eq_zero_iff.1 h)
  · exact .inr (List.length_eq_one_iff.1 h)

theorem one_or_two (harity : o.arity = .fixed 2) (hmin : o.minArity = 1)
    (hargs : o.accepts args.length = true) : (∃ a, args = [a]) ∨ ∃ a b, args = [a, b] := by
  obtain ⟨hlow, hhigh⟩ := length_of_accepts (m := 1) (n := 2) harity hmin hargs
  rcases Nat.le_and_le_add_one_iff.1 ⟨hlow, hhigh⟩ with h | h
  · exact .inl (List.length_eq_one_iff.1 h)
  · exact .inr (List.length_eq_two.1 h)

theorem two_or_three (harity : o.arity = .fixed 3) (hmin : o.minArity = 2)
    (hargs : o.accepts args.length = true) :
    (∃ a b, args = [a, b]) ∨ ∃ a b c, args = [a, b, c] := by
  obtain ⟨hlow, hhigh⟩ := length_of_accepts (m := 2) (n := 3) harity hmin hargs
  rcases Nat.le_and_le_add_one_iff.1 ⟨hlow, hhigh⟩ with h | h
  · exact .inl (List.length_eq_two.1 h)
  · exact .inr (List.length_eq_three.1 h)

theorem three_or_four (harity : o.arity = .fixed 4) (hmin : o.minArity = 3)
    (hargs : o.accepts args.length = true) :
    (∃ a b c, args = [a, b, c]) ∨ ∃ a b c d, args = [a, b, c, d] := by
  obtain ⟨hlow, hhigh⟩ := length_of_accepts (m := 3) (n := 4) harity hmin hargs
  rcases Nat.le_and_le_add_one_iff.1 ⟨hlow, hhigh⟩ with h | h
  · exact .inl (List.length_eq_three.1 h)
  · match args with
    | [a, b, c, d] => exact .inr ⟨a, b, c, d, rfl⟩

theorem failsOnly_lift {r : Except Fault Value}
    (h : FailsOnly (fun f => o.MayRaise args (.fault f)) r) :
    FailsOnly (o.MayRaise args) (Rule.lift r) := by
  cases r with
  | error f => exact .error (h f rfl)
  | ok v => exact .ok v

theorem failsOnly_answered {r : Except Fault Value} (h : OnlyAnswered r) :
    FailsOnly (o.MayRaise args) (Rule.lift r) := failsOnly_lift (h.mono fun _ => .answered)

/-! ## Rules of a number of arguments -/

theorem answers_nullary {v : Value} (hrule : o.rule = Rule.nullary v) : o.Answers := by
  intro args _
  rw [hrule]
  exact .ok v

theorem answers_many {f : List Value → Except Fault Value} (hrule : o.rule = Rule.many f)
    (hf : ∀ vs, OnlyAnswered (f vs)) : o.Answers := by
  intro args _
  rw [hrule]
  exact failsOnly_answered (hf args)

theorem answers_unary {f : Value → Except Fault Value} (hrule : o.rule = Rule.unary f)
    (harity : o.arity = .fixed 1) (hmin : o.minArity = 1) (hf : ∀ a, OnlyAnswered (f a)) :
    o.Answers := by
  intro args hargs
  obtain ⟨a, rfl⟩ := exists_one harity hmin hargs
  rw [hrule]
  exact failsOnly_answered (hf a)

theorem answers_binary {f : Value → Value → Except Fault Value} (hrule : o.rule = Rule.binary f)
    (harity : o.arity = .fixed 2) (hmin : o.minArity = 2) (hf : ∀ a b, OnlyAnswered (f a b)) :
    o.Answers := by
  intro args hargs
  obtain ⟨a, b, rfl⟩ := exists_pair harity hmin hargs
  rw [hrule]
  exact failsOnly_answered (hf a b)

theorem answers_binaryWith {default : Value} {f : Value → Value → Except Fault Value}
    (hrule : o.rule = Rule.binaryWith default f) (harity : o.arity = .fixed 2)
    (hmin : o.minArity = 1) (hf : ∀ a b, OnlyAnswered (f a b)) : o.Answers := by
  intro args hargs
  rw [hrule]
  rcases one_or_two harity hmin hargs with ⟨a, rfl⟩ | ⟨a, b, rfl⟩
  · exact failsOnly_answered (hf a default)
  · exact failsOnly_answered (hf a b)

theorem answers_ternary {f : Value → Value → Value → Except Fault Value}
    (hrule : o.rule = Rule.ternary f) (harity : o.arity = .fixed 3) (hmin : o.minArity = 3)
    (hf : ∀ a b c, OnlyAnswered (f a b c)) : o.Answers := by
  intro args hargs
  obtain ⟨a, b, c, rfl⟩ := exists_triple harity hmin hargs
  rw [hrule]
  exact failsOnly_answered (hf a b c)

theorem answers_ternaryWith {default : Value} {f : Value → Value → Value → Except Fault Value}
    (hrule : o.rule = Rule.ternaryWith default f) (harity : o.arity = .fixed 3)
    (hmin : o.minArity = 2) (hf : ∀ a b c, OnlyAnswered (f a b c)) : o.Answers := by
  intro args hargs
  rw [hrule]
  rcases two_or_three harity hmin hargs with ⟨a, b, rfl⟩ | ⟨a, b, c, rfl⟩
  · exact failsOnly_answered (hf a b default)
  · exact failsOnly_answered (hf a b c)

end

end Operator

/-! ## Arithmetic -/

namespace Arithmetic

open Operator

theorem onlyAnswered_add (a b : Value) : OnlyAnswered (add a b) := by
  unfold add
  split
  · exact .ok _
  · exact .ok _
  · exact (Number.onlyAnswered_combine _ _ _ _).map _

theorem onlyAnswered_subtract (a b : Value) : OnlyAnswered (subtract a b) := by
  unfold subtract
  split
  · exact .ok _
  · exact .ok _
  · exact (Number.onlyAnswered_combine _ _ _ _).map _

theorem onlyAnswered_multiply (a b : Value) : OnlyAnswered (multiply a b) :=
  (Number.onlyAnswered_combine _ _ _ _).map _

theorem onlyAnswered_sqrt (a : Value) : OnlyAnswered (sqrt a) :=
  (Number.onlyAnswered_sqrt _).bind fun _ => .ok _

theorem onlyAnswered_round (a digits : Value) : OnlyAnswered (round a digits) :=
  (Number.onlyAnswered_roundHalfAway _ _).map _

theorem onlyAnswered_toMultiple {rounding : Number → Except Fault Int}
    (hrounding : ∀ n, OnlyAnswered (rounding n)) (a step : Value) :
    OnlyAnswered (toMultiple rounding a step) := by
  refine .ite (.ok _) (.ite (.ok _) ?_)
  refine (Number.onlyAnswered_ratio _ _).bind fun quotient => ?_
  refine (hrounding _).bind fun n => (Number.onlyAnswered_combine _ _ _ _).bind fun result => ?_
  refine result.onlyAnswered_toFloat.bind fun x => .ite ?_ (.ok _)
  exact result.onlyAnswered_trunc.bind fun _ => .ok _

theorem onlyAnswered_int (a : Value) : OnlyAnswered (int a) :=
  .ite (.ok _) ((Number.onlyAnswered_floor _).map _)

theorem answers_dividing {o : Operator} {id : String} {f : Number → Number → Except Fault Number}
    (hrule : o.rule = dividing id f) (harity : o.arity = .fixed 2) (hmin : o.minArity = 2)
    (hf : ∀ a b, OnlyAnswered (f a b)) : o.Answers := by
  intro args hargs
  obtain ⟨a, b, rfl⟩ := exists_pair harity hmin hargs
  rw [hrule]
  exact .ite (.error (.divisionByZero id)) (failsOnly_answered ((hf _ _).map _))

theorem answers_operators : ∀ o ∈ operators, o.Answers := by
  simp only [operators, List.forall_mem_cons, List.not_mem_nil, false_implies, implies_true,
    and_true]
  exact ⟨answers_binary rfl rfl rfl onlyAnswered_add,
    answers_binary rfl rfl rfl onlyAnswered_subtract,
    answers_binary rfl rfl rfl onlyAnswered_multiply,
    answers_dividing rfl rfl rfl Number.onlyAnswered_div,
    answers_dividing rfl rfl rfl (Number.onlyAnswered_combine _ _),
    answers_binary rfl rfl rfl fun _ _ => .ok _,
    answers_unary rfl rfl rfl fun _ => .ok _,
    answers_unary rfl rfl rfl fun _ => .ok _,
    answers_unary rfl rfl rfl onlyAnswered_sqrt,
    answers_binaryWith rfl rfl rfl onlyAnswered_round,
    answers_binaryWith rfl rfl rfl (onlyAnswered_toMultiple Number.onlyAnswered_floor),
    answers_binaryWith rfl rfl rfl (onlyAnswered_toMultiple Number.onlyAnswered_ceil),
    answers_unary rfl rfl rfl onlyAnswered_int⟩

end Arithmetic

/-! ## Logic -/

namespace Logic

open Operator

theorem answers_operators : ∀ o ∈ operators, o.Answers := by
  simp only [operators, comparisons, connectives, List.forall_mem_append, List.forall_mem_cons,
    List.not_mem_nil, false_implies, implies_true, and_true]
  exact ⟨⟨answers_binary rfl rfl rfl fun a b => (a.onlyAnswered_equals b).map _,
      answers_binary rfl rfl rfl fun a b => (a.onlyAnswered_equals b).bind fun _ => .ok _,
      answers_binary rfl rfl rfl fun _ _ => .ok _,
      answers_binary rfl rfl rfl fun _ _ => .ok _,
      answers_binary rfl rfl rfl fun _ _ => .ok _,
      answers_binary rfl rfl rfl fun _ _ => .ok _⟩,
    answers_many rfl fun _ => .ok _,
    answers_many rfl fun _ => .ok _,
    answers_unary rfl rfl rfl fun _ => .ok _,
    answers_many rfl fun _ => .ok _,
    answers_ternaryWith rfl rfl rfl fun _ _ _ => .ok _⟩

end Logic

/-! ## Texts -/

namespace Texts

open Operator

theorem onlyAnswered_charsOf (v : Value) : OnlyAnswered (charsOf v) := v.onlyAnswered_toText.map _

theorem onlyAnswered_concat (vs : List Value) : OnlyAnswered (concat vs) :=
  (FailsOnly.mapM Value.onlyAnswered_toText vs).bind fun _ => .ok _

theorem onlyAnswered_left (v count : Value) : OnlyAnswered (left v count) :=
  .ite ((onlyAnswered_charsOf v).bind fun _ => .ok _) (.ok _)

theorem onlyAnswered_right (v count : Value) : OnlyAnswered (right v count) :=
  .ite ((onlyAnswered_charsOf v).bind fun _ => .ok _) (.ok _)

theorem onlyAnswered_find (needle v start : Value) : OnlyAnswered (find needle v start) :=
  (onlyAnswered_charsOf v).bind fun _ => (onlyAnswered_charsOf needle).bind fun _ => .ok _

theorem onlyAnswered_replacementLimit (count : Value) : OnlyAnswered (replacementLimit count) := by
  unfold replacementLimit
  split
  · exact .ok none
  · exact .ite (.error rfl) (.ok _)

theorem onlyAnswered_substitute (v old new count : Value) :
    OnlyAnswered (substitute v old new count) := by
  refine (onlyAnswered_charsOf v).bind fun _ => (onlyAnswered_charsOf old).bind fun _ => ?_
  refine .ite (.ok _) ((onlyAnswered_charsOf new).bind fun _ => ?_)
  exact (onlyAnswered_replacementLimit count).bind fun _ => .ok _

theorem answers_substitute {o : Operator} (hrule : o.rule = substituteRule)
    (harity : o.arity = .fixed 4) (hmin : o.minArity = 3) : o.Answers := by
  intro args hargs
  rw [hrule]
  rcases three_or_four harity hmin hargs with ⟨v, old, new, rfl⟩ | ⟨v, old, new, count, rfl⟩
  · exact failsOnly_answered (onlyAnswered_substitute v old new .null)
  · exact failsOnly_answered (onlyAnswered_substitute v old new count)

/-- A repetition alone may want for memory. -/
theorem answers_rept {o : Operator} (hid : o.id = "REPT") (hrule : o.rule = Rule.binary rept)
    (harity : o.arity = .fixed 2) (hmin : o.minArity = 2) : o.Answers := by
  intro args hargs
  obtain ⟨v, count, rfl⟩ := exists_pair harity hmin hargs
  rw [hrule]
  refine failsOnly_lift ?_
  unfold rept
  cases hchars : charsOf v with
  | error f => exact .error (.answered (onlyAnswered_charsOf v f hchars))
  | ok cs =>
    refine .bind_of_ok rfl (.ite (.error (.answered rfl)) (.ite (.error (.answered rfl)) ?_))
    by_cases hroom : Fault.roomLimit < cs.length * (count.toInteger 0).toNat
    · rw [if_pos hroom]
      exact .error (.outOfMemory hid ⟨v, count, cs, rfl, hchars, hroom⟩)
    · rw [if_neg hroom]
      exact .ok _

theorem answers_operators : ∀ o ∈ operators, o.Answers := by
  simp only [operators, List.forall_mem_cons, List.not_mem_nil, false_implies, implies_true,
    and_true]
  exact ⟨answers_many rfl onlyAnswered_concat,
    answers_unary rfl rfl rfl fun v => v.onlyAnswered_toText.bind fun _ => .ok _,
    answers_unary rfl rfl rfl fun v => v.onlyAnswered_toText.bind fun _ => .ok _,
    answers_unary rfl rfl rfl fun v => v.onlyAnswered_toText.bind fun _ => .ok _,
    answers_unary rfl rfl rfl fun v => (onlyAnswered_charsOf v).bind fun _ => .ok _,
    answers_binaryWith rfl rfl rfl onlyAnswered_left,
    answers_binaryWith rfl rfl rfl onlyAnswered_right,
    answers_ternary rfl rfl rfl fun v _ _ => (onlyAnswered_charsOf v).bind fun _ => .ok _,
    answers_ternaryWith rfl rfl rfl onlyAnswered_find,
    answers_substitute rfl rfl rfl,
    answers_rept rfl rfl rfl rfl⟩

end Texts

/-! ## Aggregates -/

namespace Aggregates

open Operator

theorem onlyAnswered_mean (ns : List Number) : OnlyAnswered (mean ns) := by
  refine .ite (.ok none) ((Number.onlyAnswered_sum ns).bind fun _ => ?_)
  exact (Number.onlyAnswered_ratio _ _).bind fun _ => .ok _

theorem onlyAnswered_extreme (beats : Ordering) (vs : List Value) :
    OnlyAnswered (extreme beats vs) := .ite (.ok _) (.ok _)

theorem onlyAnswered_join (v separator : Value) : OnlyAnswered (join v separator) :=
  (FailsOnly.mapM Value.onlyAnswered_toText _).bind fun _ =>
    separator.onlyAnswered_toText.bind fun _ => .ok _

theorem onlyAnswered_isAmong (v : Value) (ws : List Value) : OnlyAnswered (isAmong v ws) := by
  induction ws with
  | nil => exact .ok false
  | cons w ws ih => exact (v.onlyAnswered_sameValue w).bind fun _ => .ite (.ok true) ih

theorem onlyAnswered_distinctAfter (kept vs : List Value) :
    OnlyAnswered (distinctAfter kept vs) := by
  induction vs generalizing kept with
  | nil => exact .ok kept
  | cons v vs ih => exact (onlyAnswered_isAmong v kept).bind fun _ => .ite (ih _) (ih _)

theorem onlyAnswered_tracked (vs : List Value) (value : Option Number) (present : Nat) :
    OnlyAnswered (tracked vs value present) :=
  .ite (.ok _) ((Number.onlyAnswered_ratio _ _).bind fun _ => .ok _)

theorem onlyAnswered_sum? (ns : List Number) : OnlyAnswered (sum? ns) :=
  .ite (.ok none) ((Number.onlyAnswered_sum ns).map _)

theorem answers_operators : ∀ o ∈ operators, o.Answers := by
  simp only [operators, List.forall_mem_cons, List.not_mem_nil, false_implies, implies_true,
    and_true]
  exact ⟨answers_many rfl fun _ => (Number.onlyAnswered_sum _).map _,
    answers_many rfl fun _ => (onlyAnswered_mean _).map _,
    answers_many rfl fun _ => .ok _,
    answers_many rfl fun _ => .ok _,
    answers_many rfl fun _ => .ok _,
    answers_many rfl (onlyAnswered_extreme .lt),
    answers_many rfl (onlyAnswered_extreme .gt),
    answers_binaryWith rfl rfl rfl onlyAnswered_join,
    answers_unary rfl rfl rfl fun _ => (onlyAnswered_distinctAfter _ _).map _,
    answers_many rfl fun _ => .ok _,
    answers_many rfl fun _ => .ok _⟩

theorem answers_trackedOperators : ∀ o ∈ trackedOperators, o.Answers := by
  simp only [trackedOperators, List.forall_mem_cons, List.not_mem_nil, false_implies,
    implies_true, and_true]
  exact ⟨answers_many rfl fun _ => (onlyAnswered_sum? _).bind fun _ => onlyAnswered_tracked _ _ _,
    answers_many rfl fun _ => (onlyAnswered_mean _).bind fun _ => onlyAnswered_tracked _ _ _,
    answers_many rfl fun _ => onlyAnswered_tracked _ _ _,
    answers_many rfl fun _ => .ok _⟩

end Aggregates

/-! ## Dates -/

namespace Dates

open Operator

theorem onlyAnswered_unitOf? (v : Value) : OnlyAnswered (unitOf? v) :=
  v.onlyAnswered_toText.bind fun _ => .ok _

theorem onlyAnswered_difference (start finish unit : Value) :
    OnlyAnswered (difference start finish unit) := by
  unfold difference
  split
  · exact .ok _
  · refine (onlyAnswered_unitOf? unit).bind fun found => ?_
    split <;> exact .ok _

theorem onlyAnswered_shifted (v count unit : Value) : OnlyAnswered (shifted v count unit) := by
  unfold shifted
  split
  · exact .ok _
  · refine (onlyAnswered_unitOf? unit).bind fun found => ?_
    split <;> exact .ok _

theorem answers_operators (now : DateTime) : ∀ o ∈ operators now, o.Answers := by
  simp only [operators, List.forall_mem_cons, List.not_mem_nil, false_implies, implies_true,
    and_true]
  exact ⟨answers_nullary rfl,
    answers_nullary rfl,
    answers_unary rfl rfl rfl fun _ => .ok _,
    answers_unary rfl rfl rfl fun _ => .ok _,
    answers_unary rfl rfl rfl fun _ => .ok _,
    answers_unary rfl rfl rfl fun _ => .ok _,
    answers_unary rfl rfl rfl fun _ => .ok _,
    answers_ternaryWith rfl rfl rfl onlyAnswered_difference,
    answers_ternaryWith rfl rfl rfl onlyAnswered_shifted⟩

end Dates

/-! ## Types and absent data -/

namespace Absence

open Operator

theorem onlyAnswered_distinct (a b : Value) : OnlyAnswered (distinct a b) :=
  .ite (.ok _) ((a.onlyAnswered_sameValue b).bind fun _ => .ok _)

theorem onlyAnswered_nullIf (a b : Value) : OnlyAnswered (nullIf a b) :=
  .ite (.ok _) ((a.onlyAnswered_sameValue b).bind fun _ => .ite (.ok _) (.ok _))

theorem onlyAnswered_mark (kind : MarkKind) (reason : Value) : OnlyAnswered (mark kind reason) :=
  .ite (.ok _) (reason.onlyAnswered_toText.bind fun _ => .ok _)

theorem onlyAnswered_equal3 (a b : Value) : OnlyAnswered (equal3 a b) :=
  .ite (.ok _) ((a.onlyAnswered_equals b).bind fun _ => .ok _)

theorem answers_mark {o : Operator} {kind : MarkKind} (hrule : o.rule = markRule kind)
    (harity : o.arity = .fixed 1) (hmin : o.minArity = 0) : o.Answers := by
  intro args hargs
  rw [hrule]
  rcases none_or_one harity hmin hargs with rfl | ⟨reason, rfl⟩
  · exact failsOnly_answered (onlyAnswered_mark kind .null)
  · exact failsOnly_answered (onlyAnswered_mark kind reason)

theorem answers_typeOperators : ∀ o ∈ typeOperators, o.Answers := by
  simp only [typeOperators, List.forall_mem_cons, List.not_mem_nil, false_implies, implies_true,
    and_true]
  exact ⟨answers_unary rfl rfl rfl fun _ => .ok _,
    answers_unary rfl rfl rfl fun v => v.onlyAnswered_toText.map _,
    answers_unary rfl rfl rfl fun _ => .ok _,
    answers_unary rfl rfl rfl fun _ => .ok _,
    answers_unary rfl rfl rfl fun _ => .ok _,
    answers_nullary rfl⟩

theorem answers_nullOperators : ∀ o ∈ nullOperators, o.Answers := by
  simp only [nullOperators, List.forall_mem_cons, List.not_mem_nil, false_implies, implies_true,
    and_true]
  exact ⟨answers_unary rfl rfl rfl fun _ => .ok _,
    answers_unary rfl rfl rfl fun _ => .ok _,
    answers_binary rfl rfl rfl fun a b => (onlyAnswered_distinct a b).map _,
    answers_binary rfl rfl rfl fun a b => (onlyAnswered_distinct a b).bind fun _ => .ok _,
    answers_binary rfl rfl rfl onlyAnswered_nullIf,
    answers_many rfl fun _ => .ok _,
    answers_mark rfl rfl rfl,
    answers_mark rfl rfl rfl,
    answers_unary rfl rfl rfl fun _ => .ok _,
    answers_unary rfl rfl rfl fun _ => .ok _,
    answers_many rfl fun _ => .ok _,
    answers_many rfl fun _ => .ok _,
    answers_unary rfl rfl rfl fun _ => .ok _,
    answers_binary rfl rfl rfl onlyAnswered_equal3⟩

end Absence

/-- The built-in operators answer for all that their rules may come to, want of memory apart. -/
theorem answers_builtIn (now : DateTime) : ∀ o ∈ builtInOperators now, o.Answers := by
  simp only [builtInOperators, List.forall_mem_append]
  exact ⟨⟨⟨⟨⟨⟨⟨Arithmetic.answers_operators, Logic.answers_operators⟩, Texts.answers_operators⟩,
    Aggregates.answers_operators⟩, Dates.answers_operators now⟩, Absence.answers_typeOperators⟩,
    Absence.answers_nullOperators⟩, Aggregates.answers_trackedOperators⟩

/-! ## Reports -/

/-- The rule never gives up with a report of its own. -/
def Rule.IsReportless (rule : Rule) : Prop :=
  ∀ args report, rule args ≠ .error (.reported report)

namespace Rule

theorem lift_ne_reported (r : Except Fault Value) (report : Report) :
    lift r ≠ .error (.reported report) := by
  cases r <;> simp [lift]

@[simp] theorem isReportless_nullary (v : Value) : (nullary v).IsReportless := by
  intro args report
  simp [nullary]

@[simp] theorem isReportless_many (f : List Value → Except Fault Value) :
    (many f).IsReportless :=
  fun args report => lift_ne_reported (f args) report

@[simp] theorem isReportless_unary (f : Value → Except Fault Value) :
    (unary f).IsReportless := by
  intro args report
  unfold unary
  split
  · exact lift_ne_reported _ report
  · simp [wrongCount]

@[simp] theorem isReportless_binary (f : Value → Value → Except Fault Value) :
    (binary f).IsReportless := by
  intro args report
  unfold binary
  split
  · exact lift_ne_reported _ report
  · simp [wrongCount]

@[simp] theorem isReportless_binaryWith (default : Value)
    (f : Value → Value → Except Fault Value) : (binaryWith default f).IsReportless := by
  intro args report
  unfold binaryWith
  split
  · exact lift_ne_reported _ report
  · exact lift_ne_reported _ report
  · simp [wrongCount]

@[simp] theorem isReportless_ternary (f : Value → Value → Value → Except Fault Value) :
    (ternary f).IsReportless := by
  intro args report
  unfold ternary
  split
  · exact lift_ne_reported _ report
  · simp [wrongCount]

@[simp] theorem isReportless_ternaryWith (default : Value)
    (f : Value → Value → Value → Except Fault Value) :
    (ternaryWith default f).IsReportless := by
  intro args report
  unfold ternaryWith
  split
  · exact lift_ne_reported _ report
  · exact lift_ne_reported _ report
  · simp [wrongCount]

@[simp] theorem isReportless_dividing (id : String)
    (f : Number → Number → Except Fault Number) :
    IsReportless (Arithmetic.dividing id f) := by
  intro args report
  unfold Arithmetic.dividing
  split
  · split
    · simp
    · exact lift_ne_reported _ report
  · simp [wrongCount]

@[simp] theorem isReportless_substitute : IsReportless Texts.substituteRule := by
  intro args report
  unfold Texts.substituteRule
  split
  · exact lift_ne_reported _ report
  · exact lift_ne_reported _ report
  · simp [wrongCount]

@[simp] theorem isReportless_mark (kind : MarkKind) : IsReportless (Absence.markRule kind) := by
  intro args report
  unfold Absence.markRule
  split
  · exact lift_ne_reported _ report
  · exact lift_ne_reported _ report
  · simp [wrongCount]

end Rule

/-- Reports of their own are left to rules that are not built in. -/
theorem isReportless_builtIn (now : DateTime) :
    ∀ o ∈ builtInOperators now, o.rule.IsReportless := by
  simp [builtInOperators, Arithmetic.operators, Logic.operators, Logic.comparisons,
    Logic.connectives, Texts.operators, Aggregates.operators, Aggregates.trackedOperators,
    Dates.operators, Absence.typeOperators, Absence.nullOperators]

end RecordCalc
