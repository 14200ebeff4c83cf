import RecordCalc.Proofs.Operator.Faults
import RecordCalc.Proofs.Operator.Limits

/-
  Which calls the built-in operators answer. Each operator is listed with its limit, which is what
  keeps its rule from an answer (`builtInLimits`); a rule gives a value, or finds that it would
  divide by zero, just when its arguments are within the limit (`isAnswered_builtIn_iff`).
-/

namespace RecordCalc

open Calendar (DateTime)

/-- What keeps a rule from an answer, by its arguments. -/
abbrev Limit := List Value → Prop

namespace Limit

/-- No limit. -/
def never : Limit := fun _ => False

/-- A limit of any number of arguments. -/
def many (p : List Value → Prop) : Limit := p

/-- A limit of one argument. -/
def unary (p : Value → Prop) : Limit
  | [a] => p a
  | _ => False

/-- A limit of one argument that has a default. -/
def unaryWith (default : Value) (p : Value → Prop) : Limit
  | [] => p default
  | [a] => p a
  | _ => False

/-- A limit of two arguments. -/
def binary (p : Value → Value → Prop) : Limit
  | [a, b] => p a b
  | _ => False

/-- A limit of two arguments, the second with a default. -/
def binaryWith (default : Value) (p : Value → Value → Prop) : Limit
  | [a] => p a default
  | [a, b] => p a b
  | _ => False

/-- A limit of three arguments. -/
def ternary (p : Value → Value → Value → Prop) : Limit
  | [a, b, c] => p a b c
  | _ => False

/-- A limit of three arguments, the third with a default. -/
def ternaryWith (default : Value) (p : Value → Value → Value → Prop) : Limit
  | [a, b] => p a b default
  | [a, b, c] => p a b c
  | _ => False

/-- A limit of four arguments, the fourth with a default. -/
def quaternaryWith (default : Value) (p : Value → Value → Value → Value → Prop) : Limit
  | [a, b, c] => p a b c default
  | [a, b, c, d] => p a b c d
  | _ => False

end Limit

namespace Operator

/-- The rule gives a value, or finds that it would divide by zero, which only two operators may. -/
def IsAnswered (o : Operator) (args : List Value) : Prop :=
  (∃ v, o.rule args = .ok v) ∨
    o.rule args = .error (.divisionByZero o.id) ∧ o.id ∈ ["DIVIDE", "MODULO"]

/-- Want of memory apart, the rule answers just within the limit. -/
def Meets (o : Operator) (limit : Limit) : Prop :=
  ∀ args : List Value, o.accepts args.length = true → o.rule args ≠ .error (.fault .outOfMemory) →
    (o.IsAnswered args ↔ ¬ limit args)

section
variable {o : Operator} {args : List Value} {limit : Limit}

theorem isAnswered_lift {r : Except Fault Value} {p : Prop} (hrule : o.rule args = Rule.lift r)
    (hr : Fails r ↔ p) : o.IsAnswered args ↔ ¬ p := by
  rw [← hr, not_fails_iff, IsAnswered, hrule]
  cases r with
  | error f => simp [Rule.lift]
  | ok v => simp [Rule.lift]

/-! ## Rules of a number of arguments -/

theorem meets_many {f : List Value → Except Fault Value} {p : List Value → Prop}
    (hrule : o.rule = Rule.many f) (hf : ∀ vs, Fails (f vs) ↔ p vs) : o.Meets (.many p) :=
  fun args _ _ => isAnswered_lift (congrFun hrule args) (hf args)

theorem meets_unary {f : Value → Except Fault Value} {p : Value → Prop}
    (hrule : o.rule = Rule.unary f) (harity : o.arity = .fixed 1) (hmin : o.minArity = 1)
    (hf : ∀ a, Fails (f a) ↔ p a) : o.Meets (.unary p) := by
  intro args hargs _
  obtain ⟨a, rfl⟩ := exists_one harity hmin hargs
  exact isAnswered_lift (congrFun hrule _) (hf a)

theorem meets_binary {f : Value → Value → Except Fault Value} {p : Value → Value → Prop}
    (hrule : o.rule = Rule.binary f) (harity : o.arity = .fixed 2) (hmin : o.minArity = 2)
    (hf : ∀ a b, Fails (f a b) ↔ p a b) : o.Meets (.binary p) := by
  intro args hargs _
  obtain ⟨a, b, rfl⟩ := exists_pair harity hmin hargs
  exact isAnswered_lift (congrFun hrule _) (hf a b)

theorem meets_binaryWith {default : Value} {f : Value → Value → Except Fault Value}
    {p : Value → Value → Prop} (hrule : o.rule = Rule.binaryWith default f)
    (harity : o.arity = .fixed 2) (hmin : o.minArity = 1) (hf : ∀ a b, Fails (f a b) ↔ p a b) :
    o.Meets (.binaryWith default p) := by
  intro args hargs _
  rcases one_or_two harity hmin hargs with ⟨a, rfl⟩ | ⟨a, b, rfl⟩
  · exact isAnswered_lift (congrFun hrule _) (hf a default)
  · exact isAnswered_lift (congrFun hrule _) (hf a b)

theorem meets_ternary {f : Value → Value → Value → Except Fault Value}
    {p : Value → Value → Value → Prop} (hrule : o.rule = Rule.ternary f)
    (harity : o.arity = .fixed 3) (hmin : o.minArity = 3)
    (hf : ∀ a b c, Fails (f a b c) ↔ p a b c) : o.Meets (.ternary p) := by
  intro args hargs _
  obtain ⟨a, b, c, rfl⟩ := exists_triple harity hmin hargs
  exact isAnswered_lift (congrFun hrule _) (hf a b c)

theorem meets_ternaryWith {default : Value} {f : Value → Value → Value → Except Fault Value}
    {p : Value → Value → Value → Prop} (hrule : o.rule = Rule.ternaryWith default f)
    (harity : o.arity = .fixed 3) (hmin : o.minArity = 2)
    (hf : ∀ a b c, Fails (f a b c) ↔ p a b c) : o.Meets (.ternaryWith default p) := by
  intro args hargs _
  rcases two_or_three harity hmin hargs with ⟨a, b, rfl⟩ | ⟨a, b, c, rfl⟩
  · exact isAnswered_lift (congrFun hrule _) (hf a b default)
  · exact isAnswered_lift (congrFun hrule _) (hf a b c)

/-! ## Rules without limits -/

theorem isAnswered_of_ok {v : Value} (h : o.rule args = .ok v) : o.IsAnswered args := .inl ⟨v, h⟩

theorem meets_never (h : ∀ args, o.accepts args.length = true → o.IsAnswered args) :
    o.Meets .never := fun args hargs _ => iff_of_true (h args hargs) fun hnever => hnever

theorem total_nullary {v : Value} (hrule : o.rule = Rule.nullary v) : o.Meets .never :=
  meets_never fun args _ => isAnswered_of_ok (congrFun hrule args)

theorem total_many {f : List Value → Except Fault Value} (hrule : o.rule = Rule.many f)
    (hf : ∀ vs, ¬ Fails (f vs)) : o.Meets .never :=
  meets_many (p := fun _ => False) hrule fun vs => iff_false_intro (hf vs)

theorem total_unary {f : Value → Except Fault Value} (hrule : o.rule = Rule.unary f)
    (harity : o.arity = .fixed 1) (hmin : o.minArity = 1) (hf : ∀ a, ¬ Fails (f a)) :
    o.Meets .never := by
  refine meets_never fun args hargs => ?_
  obtain ⟨a, rfl⟩ := exists_one harity hmin hargs
  exact (isAnswered_lift (congrFun hrule _) Iff.rfl).2 (hf a)

theorem total_binary {f : Value → Value → Except Fault Value} (hrule : o.rule = Rule.binary f)
    (harity : o.arity = .fixed 2) (hmin : o.minArity = 2) (hf : ∀ a b, ¬ Fails (f a b)) :
    o.Meets .never := by
  refine meets_never fun args hargs => ?_
  obtain ⟨a, b, rfl⟩ := exists_pair harity hmin hargs
  exact (isAnswered_lift (congrFun hrule _) Iff.rfl).2 (hf a b)

theorem total_ternaryWith {default : Value} {f : Value → Value → Value → Except Fault Value}
    (hrule : o.rule = Rule.ternaryWith default f) (harity : o.arity = .fixed 3)
    (hmin : o.minArity = 2) (hf : ∀ a b c, ¬ Fails (f a b c)) : o.Meets .never := by
  refine meets_never fun args hargs => ?_
  rcases two_or_three harity hmin hargs with ⟨a, b, rfl⟩ | ⟨a, b, c, rfl⟩
  · exact (isAnswered_lift (congrFun hrule _) Iff.rfl).2 (hf a b default)
  · exact (isAnswered_lift (congrFun hrule _) Iff.rfl).2 (hf a b c)

end

/-- An operator and its limit in a list. -/
structure Listed (o : Operator) (entry : String × Limit) : Prop where
  id : o.id = entry.1
  meets : o.Meets entry.2

end Operator

/-! ## Arithmetic -/

namespace Arithmetic

open Operator

/-- The limit of a division by anything but zero. -/
def dividingLimit (p : Number → Number → Prop) : Limit :=
  .binary fun a b => b.toNumber.isZero = false ∧ p a.toNumber b.toNumber

/-- The limit of a multiple of a step next to a number. -/
def multipleLimit (found : Float → Option Int) : Limit :=
  .binaryWith (.int 1) fun a step => a.toNumber.isNotFinite = false ∧
    step.toNumber.isZero = false ∧ a.toNumber.LacksMultiple found step.toNumber

/-- The limits of the arithmetic operators. -/
def limits : List (String × Limit) := [
  ("ADD", .binary fun a b => a.isDate = false ∧ b.isDate = false ∧ a.toNumber.Clash b.toNumber),
  ("SUBTRACT", .binary fun a b => a.isDate = false ∧ a.toNumber.Clash b.toNumber),
  ("MULTIPLY", .binary fun a b => a.toNumber.Clash b.toNumber),
  ("DIVIDE", dividingLimit fun m n => ¬ m.IsMultiple n ∧ m.OutOfRange n),
  ("MODULO", dividingLimit Number.Clash),
  ("POWER", .never),
  ("NEGATE", .never),
  ("ABS", .never),
  ("SQRT", .unary fun a => a.toNumber.isNegative = false ∧ a.toNumber.IsFar),
  ("ROUND", .binaryWith (.int 0) fun a digits => a.toNumber.IsUnrounded (digits.toInteger 0)),
  ("FLOOR", multipleLimit Binary64.floor?),
  ("CEIL", multipleLimit Binary64.ceil?),
  ("INT", .never)]

theorem meets_dividing {o : Operator} {f : Number → Number → Except Fault Number}
    {p : Number → Number → Prop} (hrule : o.rule = dividing o.id f) (harity : o.arity = .fixed 2)
    (hmin : o.minArity = 2) (hid : o.id ∈ ["DIVIDE", "MODULO"])
    (hf : ∀ m n, n.isZero = false → (Fails (f m n) ↔ p m n)) : o.Meets (dividingLimit p) := by
  intro args hargs _
  obtain ⟨a, b, rfl⟩ := exists_pair harity hmin hargs
  have hargs : o.rule [a, b] = _ := congrFun hrule [a, b]
  rw [dividing] at hargs
  cases hzero : b.toNumber.isZero with
  | true =>
    rw [hzero] at hargs
    exact iff_of_true (.inr ⟨hargs, hid⟩) (by simp [dividingLimit, Limit.binary, hzero])
  | false =>
    rw [hzero] at hargs
    refine isAnswered_lift hargs ?_
    rw [fails_map, hf _ _ hzero]
    exact (and_iff_right hzero).symm

theorem listed_operators : List.Forall₂ Listed operators limits :=
  .cons ⟨rfl, meets_binary rfl rfl rfl fails_add⟩ <|
  .cons ⟨rfl, meets_binary rfl rfl rfl fails_subtract⟩ <|
  .cons ⟨rfl, meets_binary rfl rfl rfl fails_multiply⟩ <|
  .cons ⟨rfl, meets_dividing rfl rfl rfl (.head _) @Number.fails_div⟩ <|
  .cons ⟨rfl, meets_dividing rfl rfl rfl (.tail _ (.head _)) fun _ _ _ =>
    Number.fails_combine _ _ _ _⟩ <|
  .cons ⟨rfl, total_binary rfl rfl rfl fun _ _ => not_fails_ok _⟩ <|
  .cons ⟨rfl, total_unary rfl rfl rfl fun _ => not_fails_ok _⟩ <|
  .cons ⟨rfl, total_unary rfl rfl rfl fun _ => not_fails_ok _⟩ <|
  .cons ⟨rfl, meets_unary rfl rfl rfl fails_sqrt⟩ <|
  .cons ⟨rfl, meets_binaryWith rfl rfl rfl fails_round⟩ <|
  .cons ⟨rfl, meets_binaryWith rfl rfl rfl (fails_toMultiple Number.roundsBy_floor)⟩ <|
  .cons ⟨rfl, meets_binaryWith rfl rfl rfl (fails_toMultiple Number.roundsBy_ceil)⟩ <|
  .cons ⟨rfl, total_unary rfl rfl rfl not_fails_int⟩ .nil

end Arithmetic

/-! ## Logic -/

namespace Logic

open Operator

/-- The limit of a comparison of values that are no numbers. -/
def equalityLimit : Limit :=
  .binary fun a b => a.isNumeric = false ∧ b.isNumeric = false ∧ a.Signals b

/-- The limits of the comparisons. -/
def comparisonLimits : List (String × Limit) := [
  ("EQUAL", equalityLimit),
  ("NOT_EQUAL", equalityLimit),
  ("LESS_THAN", .never),
  ("GREATER_THAN", .never),
  ("LESS_EQUAL", .never),
  ("GREATER_EQUAL", .never)]

/-- The connectives have no limits. -/
def connectiveLimits : List (String × Limit) :=
  ["AND", "OR", "NOT", "XOR", "IF"].map (·, .never)

theorem listed_comparisons : List.Forall₂ Listed comparisons comparisonLimits :=
  .cons ⟨rfl, meets_binary rfl rfl rfl fails_equal⟩ <|
  .cons ⟨rfl, meets_binary rfl rfl rfl fails_notEqual⟩ <|
  .cons ⟨rfl, total_binary rfl rfl rfl fun _ _ => not_fails_ok _⟩ <|
  .cons ⟨rfl, total_binary rfl rfl rfl fun _ _ => not_fails_ok _⟩ <|
  .cons ⟨rfl, total_binary rfl rfl rfl fun _ _ => not_fails_ok _⟩ <|
  .cons ⟨rfl, total_binary rfl rfl rfl fun _ _ => not_fails_ok _⟩ .nil

theorem listed_connectives : List.Forall₂ Listed connectives connectiveLimits :=
  .cons ⟨rfl, total_many rfl fun _ => not_fails_ok _⟩ <|
  .cons ⟨rfl, total_many rfl fun _ => not_fails_ok _⟩ <|
  .cons ⟨rfl, total_unary rfl rfl rfl fun _ => not_fails_ok _⟩ <|
  .cons ⟨rfl, total_many rfl fun _ => not_fails_ok _⟩ <|
  .cons ⟨rfl, total_ternaryWith rfl rfl rfl fun _ _ _ => not_fails_ok _⟩ .nil

end Logic

/-! ## Texts -/

namespace Texts

open Operator Value

/-- The limits of the operators on texts. -/
def limits : List (String × Limit) := [
  ("CONCAT", .many fun vs => ∃ v ∈ vs, v.HasLongInteger),
  ("UPPER", .unary fun v => v.HasLongInteger),
  ("LOWER", .unary fun v => v.HasLongInteger),
  ("TRIM", .unary fun v => v.HasLongInteger),
  ("LEN", .unary fun v => v.HasLongInteger),
  ("LEFT", .binaryWith (.int 1) fun v count => 0 < count.toInteger 1 ∧ v.HasLongInteger),
  ("RIGHT", .binaryWith (.int 1) fun v count => 0 < count.toInteger 1 ∧ v.HasLongInteger),
  ("MID", .ternary fun v _ _ => v.HasLongInteger),
  ("FIND", .ternaryWith (.int 1) fun needle v _ => v.HasLongInteger ∨ needle.HasLongInteger),
  ("SUBSTITUTE", .quaternaryWith .null fun v old new count =>
    v.HasLongInteger ∨ old.HasLongInteger ∨
      ∃ c cs, charsOf old = .ok (c :: cs) ∧ (new.HasLongInteger ∨ ExceedsReplacements count)),
  ("REPT", .binary fun v count => v.HasLongInteger ∨ ExceedsRepetition v count)]

theorem meets_substitute {o : Operator} (hrule : o.rule = substituteRule)
    (harity : o.arity = .fixed 4) (hmin : o.minArity = 3)
    {p : Value → Value → Value → Value → Prop}
    (hp : ∀ v old new count, Fails (substitute v old new count) ↔ p v old new count) :
    o.Meets (.quaternaryWith .null p) := by
  intro args hargs _
  rcases three_or_four harity hmin hargs with ⟨v, old, new, rfl⟩ | ⟨v, old, new, count, rfl⟩
  · exact isAnswered_lift (congrFun hrule _) (hp v old new .null)
  · exact isAnswered_lift (congrFun hrule _) (hp v old new count)

theorem meets_rept {o : Operator} (hrule : o.rule = Rule.binary rept)
    (harity : o.arity = .fixed 2) (hmin : o.minArity = 2) :
    o.Meets (.binary fun v count => v.HasLongInteger ∨ ExceedsRepetition v count) := by
  intro args hargs hroom
  obtain ⟨v, count, rfl⟩ := exists_pair harity hmin hargs
  have hrept : o.rule [v, count] = Rule.lift (rept v count) := congrFun hrule _
  refine isAnswered_lift hrept (fails_rept fun hmemory => hroom ?_)
  rw [hrept, hmemory]
  rfl

theorem listed_operators : List.Forall₂ Listed operators limits :=
  .cons ⟨rfl, meets_many rfl fails_concat⟩ <|
  .cons ⟨rfl, meets_unary rfl rfl rfl fails_upper⟩ <|
  .cons ⟨rfl, meets_unary rfl rfl rfl fails_lower⟩ <|
  .cons ⟨rfl, meets_unary rfl rfl rfl fails_trim⟩ <|
  .cons ⟨rfl, meets_unary rfl rfl rfl fails_length⟩ <|
  .cons ⟨rfl, meets_binaryWith rfl rfl rfl fails_left⟩ <|
  .cons ⟨rfl, meets_binaryWith rfl rfl rfl fails_right⟩ <|
  .cons ⟨rfl, meets_ternary rfl rfl rfl fails_middle⟩ <|
  .cons ⟨rfl, meets_ternaryWith rfl rfl rfl fails_find⟩ <|
  .cons ⟨rfl, meets_substitute rfl rfl rfl fails_substitute⟩ <|
  .cons ⟨rfl, meets_rept rfl rfl rfl⟩ .nil

end Texts

/-! ## Aggregates -/

namespace Aggregates

open Operator Value

/-- The limits of the aggregate operators. -/
def limits : List (String × Limit) := [
  ("SUM", .many fun vs => Number.SumClashes (numbers vs)),
  ("AVG", .many fun vs => LacksMean (numbers vs)),
  ("COUNT", .never),
  ("COUNTA", .never),
  ("COUNTBLANK", .never),
  ("MIN", .never),
  ("MAX", .never),
  ("ARRAY_JOIN", .binaryWith (.text ", ") fun v separator =>
    (∃ u ∈ flatten [v], u.HasLongInteger) ∨ separator.HasLongInteger),
  ("UNIQUE", .unary Undistinguished),
  ("FIRST", .never),
  ("LAST", .never)]

/-- The limits of the aggregates that count what is missing. -/
def trackedLimits : List (String × Limit) := [
  ("SUM_CODD", .many fun vs => Number.SumClashes (numbers vs)),
  ("AVG_CODD", .many fun vs => LacksMean (numbers vs)),
  ("COUNT_CODD", .never),
  ("COUNT_ALL", .never)]

theorem listed_operators : List.Forall₂ Listed operators limits :=
  .cons ⟨rfl, meets_many rfl fails_sum⟩ <|
  .cons ⟨rfl, meets_many rfl fails_average⟩ <|
  .cons ⟨rfl, total_many rfl fun _ => not_fails_ok _⟩ <|
  .cons ⟨rfl, total_many rfl fun _ => not_fails_ok _⟩ <|
  .cons ⟨rfl, total_many rfl fun _ => not_fails_ok _⟩ <|
  .cons ⟨rfl, total_many rfl (not_fails_extreme .lt)⟩ <|
  .cons ⟨rfl, total_many rfl (not_fails_extreme .gt)⟩ <|
  .cons ⟨rfl, meets_binaryWith rfl rfl rfl fails_join⟩ <|
  .cons ⟨rfl, meets_unary rfl rfl rfl fails_distinct⟩ <|
  .cons ⟨rfl, total_many rfl fun _ => not_fails_ok _⟩ <|
  .cons ⟨rfl, total_many rfl fun _ => not_fails_ok _⟩ .nil

theorem listed_trackedOperators : List.Forall₂ Listed trackedOperators trackedLimits :=
  .cons ⟨rfl, meets_many rfl fails_trackedSum⟩ <|
  .cons ⟨rfl, meets_many rfl fails_trackedMean⟩ <|
  .cons ⟨rfl, total_many rfl not_fails_trackedCount⟩ <|
  .cons ⟨rfl, total_many rfl fun _ => not_fails_ok _⟩ .nil

end Aggregates

/-! ## Dates -/

namespace Dates

open Operator

/-- The limits of the operators on dates. -/
def limits : List (String × Limit) :=
  ["TODAY", "NOW", "YEAR", "MONTH", "DAY", "HOUR", "MINUTE"].map (·, .never) ++ [
  ("DATEDIFF", .ternaryWith (.text "days") fun start finish unit =>
    (Value.datetimePair? start finish).isSome = true ∧ unit.HasLongInteger),
  ("DATEADD", .ternaryWith (.text "days") fun v _ unit =>
    v.toDate?.isSome = true ∧ unit.HasLongInteger)]

theorem listed_operators (now : DateTime) : List.Forall₂ Listed (operators now) limits :=
  .cons ⟨rfl, total_nullary rfl⟩ <|
  .cons ⟨rfl, total_nullary rfl⟩ <|
  .cons ⟨rfl, total_unary rfl rfl rfl fun _ => not_fails_ok _⟩ <|
  .cons ⟨rfl, total_unary rfl rfl rfl fun _ => not_fails_ok _⟩ <|
  .cons ⟨rfl, total_unary rfl rfl rfl fun _ => not_fails_ok _⟩ <|
  .cons ⟨rfl, total_unary rfl rfl rfl fun _ => not_fails_ok _⟩ <|
  .cons ⟨rfl, total_unary rfl rfl rfl fun _ => not_fails_ok _⟩ <|
  .cons ⟨rfl, meets_ternaryWith rfl rfl rfl fails_difference⟩ <|
  .cons ⟨rfl, meets_ternaryWith rfl rfl rfl fails_shifted⟩ .nil

end Dates

/-! ## Types and absent data -/

namespace Absence

open Operator

/-- The limit of a comparison that tells the types apart. -/
def sameLimit : Limit := .binary fun a b => a.typeOf = b.typeOf ∧ a.Signals b

/-- The limit of a mark with a reason. -/
def markLimit : Limit := .unaryWith .null fun reason => reason.HasLongInteger

/-- The limits of the operators on types. -/
def typeLimits : List (String × Limit) := [
  ("TO_NUMBER", .never),
  ("TO_TEXT", .unary fun v => v.HasLongInteger),
  ("ISBLANK", .never),
  ("ISNUMBER", .never),
  ("ISTEXT", .never),
  ("BLANK", .never)]

/-- The limits of the operators on absent data. -/
def nullLimits : List (String × Limit) := [
  ("ISNULL", .never),
  ("ISNOTNULL", .never),
  ("IS_DISTINCT_FROM", sameLimit),
  ("IS_NOT_DISTINCT_FROM", sameLimit),
  ("NULLIF", sameLimit),
  ("COALESCE", .never),
  ("A_MARK", markLimit),
  ("I_MARK", markLimit),
  ("IS_A_MARK", .never),
  ("IS_I_MARK", .never),
  ("AND3", .never),
  ("OR3", .never),
  ("NOT3", .never),
  ("EQ3", Logic.equalityLimit)]

theorem meets_mark {o : Operator} {kind : MarkKind} (hrule : o.rule = markRule kind)
    (harity : o.arity = .fixed 1) (hmin : o.minArity = 0) : o.Meets markLimit := by
  intro args hargs _
  rcases none_or_one harity hmin hargs with rfl | ⟨reason, rfl⟩
  · exact isAnswered_lift (congrFun hrule _) (fails_mark kind .null)
  · exact isAnswered_lift (congrFun hrule _) (fails_mark kind reason)

theorem listed_typeOperators : List.Forall₂ Listed typeOperators typeLimits :=
  .cons ⟨rfl, total_unary rfl rfl rfl fun _ => not_fails_ok _⟩ <|
  .cons ⟨rfl, meets_unary rfl rfl rfl fails_toText⟩ <|
  .cons ⟨rfl, total_unary rfl rfl rfl fun _ => not_fails_ok _⟩ <|
  .cons ⟨rfl, total_unary rfl rfl rfl fun _ => not_fails_ok _⟩ <|
  .cons ⟨rfl, total_unary rfl rfl rfl fun _ => not_fails_ok _⟩ <|
  .cons ⟨rfl, total_nullary rfl⟩ .nil

theorem listed_nullOperators : List.Forall₂ Listed nullOperators nullLimits :=
  .cons ⟨rfl, total_unary rfl rfl rfl fun _ => not_fails_ok _⟩ <|
  .cons ⟨rfl, total_unary rfl rfl rfl fun _ => not_fails_ok _⟩ <|
  .cons ⟨rfl, meets_binary rfl rfl rfl fails_isDistinct⟩ <|
  .cons ⟨rfl, meets_binary rfl rfl rfl fails_isNotDistinct⟩ <|
  .cons ⟨rfl, meets_binary rfl rfl rfl fails_nullIf⟩ <|
  .cons ⟨rfl, total_many rfl fun _ => not_fails_ok _⟩ <|
  .cons ⟨rfl, meets_mark rfl rfl rfl⟩ <|
  .cons ⟨rfl, meets_mark rfl rfl rfl⟩ <|
  .cons ⟨rfl, total_unary rfl rfl rfl fun _ => not_fails_ok _⟩ <|
  .cons ⟨rfl, total_unary rfl rfl rfl fun _ => not_fails_ok _⟩ <|
  .cons ⟨rfl, total_many rfl fun _ => not_fails_ok _⟩ <|
  .cons ⟨rfl, total_many rfl fun _ => not_fails_ok _⟩ <|
  .cons ⟨rfl, total_unary rfl rfl rfl fun _ => not_fails_ok _⟩ <|
  .cons ⟨rfl, meets_binary rfl rfl rfl fails_equal3⟩ .nil

end Absence

/-! ## The built-in operators -/

/-- The limits of the built-in operators. -/
def builtInLimits : List (String × Limit) :=
  Arithmetic.limits ++ (Logic.comparisonLimits ++ Logic.connectiveLimits) ++ Texts.limits ++
    Aggregates.limits ++ Dates.limits ++ Absence.typeLimits ++ Absence.nullLimits ++
    Aggregates.trackedLimits

/-- The arguments exceed the limit of an operator. -/
def Exceeds (id : String) (args : List Value) : Prop :=
  ∃ limit, (id, limit) ∈ builtInLimits ∧ limit args

theorem listed_builtIn (now : DateTime) :
    List.Forall₂ Operator.Listed (builtInOperators now) builtInLimits := by
  have happend := @List.rel_append Operator (String × Limit) Operator.Listed
  exact happend (happend (happend (happend (happend (happend (happend Arithmetic.listed_operators
    (happend Logic.listed_comparisons Logic.listed_connectives)) Texts.listed_operators)
    Aggregates.listed_operators) (Dates.listed_operators now)) Absence.listed_typeOperators)
    Absence.listed_nullOperators) Aggregates.listed_trackedOperators

theorem isAnswered_of_not_exceeds {now : DateTime} {o : Operator} (ho : o ∈ builtInOperators now)
    {args : List Value} (hargs : o.accepts args.length = true)
    (hroom : o.rule args ≠ .error (.fault .outOfMemory)) (h : ¬ Exceeds o.id args) :
    o.IsAnswered args := by
  obtain ⟨⟨id, limit⟩, hmem, hid, hmeets⟩ := Lists.exists_of_mem (listed_builtIn now) ho
  refine (hmeets args hargs hroom).2 fun hlimit => h ⟨limit, ?_, hlimit⟩
  rw [hid]
  exact hmem

/-- An operator is listed with no limit that it does not meet. -/
theorem meets_of_mem {now : DateTime} {o : Operator} {limit : Limit}
    (ho : o ∈ builtInOperators now) (hlimit : (o.id, limit) ∈ builtInLimits) : o.Meets limit := by
  obtain ⟨o', ho', hid, hmeets⟩ := Lists.exists_of_mem (listed_builtIn now).flip hlimit
  rw [Registry.eq_of_id_eq ho ho' hid.symm]
  exact hmeets

/-- The built-in operators answer all calls within their limits, and no others. -/
theorem isAnswered_builtIn_iff {now : DateTime} {o : Operator} (ho : o ∈ builtInOperators now)
    {args : List Value} (hargs : o.accepts args.length = true)
    (hroom : o.rule args ≠ .error (.fault .outOfMemory)) :
    o.IsAnswered args ↔ ¬ Exceeds o.id args := by
  refine ⟨?_, isAnswered_of_not_exceeds ho hargs hroom⟩
  rintro hanswered ⟨limit, hmem, hlimit⟩
  exact (meets_of_mem ho hmem args hargs hroom).1 hanswered hlimit

theorem isAnswered_builtIn_rept :
    Texts.operators[10] ∈ builtInOperators Registry.epoch ∧
      Texts.operators[10].accepts 2 = true ∧
      Texts.operators[10].rule [.text "ab", .int 3] ≠ .error (.fault .outOfMemory) ∧
      (Texts.operators[10].IsAnswered [.text "ab", .int 3] ↔
        ¬ Exceeds "REPT" [.text "ab", .int 3]) := by
  have ho : Texts.operators[10] ∈ builtInOperators Registry.epoch := by simp [builtInOperators]
  have hroom : Texts.operators[10].rule [.text "ab", .int 3] ≠ .error (.fault .outOfMemory) := by
    intro h
    cases h
  exact ⟨ho, rfl, hroom, isAnswered_builtIn_iff ho rfl hroom⟩

/-- The length of an integer with too many digits to be written is not answered. -/
theorem not_isAnswered_length :
    ∃ o ∈ builtInOperators Registry.epoch, o.id = "LEN" ∧ o.accepts 1 = true ∧
      ∃ n : Nat, n = Nat.pow 10 Fault.digitLimit ∧
        o.rule [.int n] = .error (.fault .tooManyDigitsToWrite) ∧ ¬ o.IsAnswered [.int n] := by
  have hmem : Texts.operators[4] ∈ builtInOperators Registry.epoch := by simp [builtInOperators]
  refine ⟨_, hmem, rfl, rfl, ?_⟩
  obtain ⟨n, hn⟩ : ∃ n, n = Nat.pow 10 Fault.digitLimit := exists_eq
  have hlong : Value.IsLong n := Nat.le_of_eq hn.symm
  have htext := (Value.writesUnless_toText (.int n) _).2 ⟨rfl, .self hlong⟩
  have hlength : Rule.unary Texts.length [.int n] = .error (.fault .tooManyDigitsToWrite) := by
    rw [Rule.unary, Texts.length, Texts.charsOf, htext]
    rfl
  refine ⟨n, hn, hlength, ?_⟩
  rintro (⟨v, hv⟩ | ⟨hzero, -⟩)
  · cases hlength.symm.trans hv
  · cases hlength.symm.trans hzero

end RecordCalc
