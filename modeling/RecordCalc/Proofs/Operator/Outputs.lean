import RecordCalc.Proofs.Operator.BuiltIn

/-
  The types of the results of the built-in operators. Given no dates, an operator that declares a
  type gives values of that type, or none (`typeOf_builtIn`). Dates make a difference to sums,
  differences and extremes only: these give dates for them.
-/

namespace RecordCalc

open Calendar (DateTime)

/-- The value is of a type, or missing. -/
def Value.Fits (v : Value) (t : ValueType) : Prop := v.typeOf = t ∨ v.typeOf = .null

/-- No value is a date, those in arrays included. -/
def Value.Dateless (args : List Value) : Prop := ∀ v ∈ Value.flatten args, v.isDate = false

/-- Whatever the computation gives fits a type. -/
def Gives {ε : Type} (t : ValueType) (x : Except ε Value) : Prop := ∀ v, x = .ok v → v.Fits t

namespace Gives

variable {ε α : Type} {t : ValueType}

theorem ok {v : Value} (h : v.Fits t) : Gives t (.ok v : Except ε Value) := by
  rintro _ ⟨⟩
  exact h

theorem error (e : ε) : Gives t (.error e) := fun _ h => nomatch h

theorem bind {x : Except ε α} {f : α → Except ε Value} (hf : ∀ a, Gives t (f a)) :
    Gives t (x >>= f) := by
  cases x with
  | error e => exact error e
  | ok a => exact hf a

theorem map {x : Except ε α} {f : α → Value} (hf : ∀ a, (f a).Fits t) : Gives t (f <$> x) := by
  cases x with
  | error e => exact error e
  | ok a => exact ok (hf a)

theorem ite {c : Prop} [Decidable c] {x y : Except ε Value} (hx : Gives t x) (hy : Gives t y) :
    Gives t (if c then x else y) := by
  split
  · exact hx
  · exact hy

theorem lift {r : Except Fault Value} (h : Gives t r) : Gives t (Rule.lift r) := by
  cases r with
  | error f => exact error _
  | ok v => exact ok (h v rfl)

end Gives

/-! ## Values -/

namespace Value

theorem fits_ofNumber? (n : Option Number) : (ofNumber? n).Fits .number := by
  cases n with
  | none => exact .inr rfl
  | some n => exact .inl rfl

theorem fits_integer? (n : Option Int) : ((n.map int).getD null).Fits .number := by
  cases n with
  | none => exact .inr rfl
  | some n => exact .inl rfl

theorem fits_dateLike? (d : Option DateLike) :
    ((d.map DateLike.toValue).getD null).Fits .date := by
  cases d with
  | none => exact .inr rfl
  | some d => cases d <;> exact .inl rfl

theorem fits_truth (t : Truth) : t.toValue.Fits .boolean := by cases t <;> exact .inl rfl

theorem dateLike?_eq_none {args : List Value} (h : Dateless args) {v : Value} (hv : v ∈ args) :
    Arithmetic.dateLike? v = none := by
  induction args with
  | nil => cases hv
  | cons w args ih =>
    rcases List.mem_cons.1 hv with rfl | hv
    · cases v with
      | date d => cases h (.date d) (List.mem_append_left _ List.mem_cons_self)
      | datetime t => cases h (.datetime t) (List.mem_append_left _ List.mem_cons_self)
      | _ => rfl
    · exact ih (fun u hu => h u (List.mem_append_right _ hu)) hv

end Value

/-! ## Rules of a number of arguments -/

namespace Operator

/-- Given no dates, the rule of an operator gives values of the declared type, or none. -/
def Yields (o : Operator) : Prop :=
  o.output ≠ .any → ∀ args, Value.Dateless args → Gives o.output (o.rule args)

variable {o : Operator}

theorem yields_any (h : o.output = .any) : o.Yields := fun hany => absurd h hany

theorem yields_nullary {v : Value} (hrule : o.rule = Rule.nullary v) (hv : v.Fits o.output) :
    o.Yields := by
  intro _ args _
  rw [hrule]
  exact .ok hv

theorem yields_many {f : List Value → Except Fault Value} (hrule : o.rule = Rule.many f)
    (hf : ∀ args, Value.Dateless args → Gives o.output (f args)) : o.Yields := by
  intro _ args hdates
  rw [hrule]
  exact (hf args hdates).lift

theorem yields_unary {f : Value → Except Fault Value} (hrule : o.rule = Rule.unary f)
    (hf : ∀ a, Gives o.output (f a)) : o.Yields := by
  intro _ args _
  rw [hrule]
  unfold Rule.unary
  split
  · exact (hf _).lift
  · exact .error _

theorem yields_binary {f : Value → Value → Except Fault Value} (hrule : o.rule = Rule.binary f)
    (hf : ∀ a b, Value.Dateless [a, b] → Gives o.output (f a b)) : o.Yields := by
  intro _ args hdates
  rw [hrule]
  unfold Rule.binary
  split
  · exact (hf _ _ hdates).lift
  · exact .error _

theorem yields_binaryWith {default : Value} {f : Value → Value → Except Fault Value}
    (hrule : o.rule = Rule.binaryWith default f) (hf : ∀ a b, Gives o.output (f a b)) :
    o.Yields := by
  intro _ args _
  rw [hrule]
  unfold Rule.binaryWith
  split
  · exact (hf _ _).lift
  · exact (hf _ _).lift
  · exact .error _

theorem yields_ternary {f : Value → Value → Value → Except Fault Value}
    (hrule : o.rule = Rule.ternary f) (hf : ∀ a b c, Gives o.output (f a b c)) : o.Yields := by
  intro _ args _
  rw [hrule]
  unfold Rule.ternary
  split
  · exact (hf _ _ _).lift
  · exact .error _

theorem yields_ternaryWith {default : Value} {f : Value → Value → Value → Except Fault Value}
    (hrule : o.rule = Rule.ternaryWith default f) (hf : ∀ a b c, Gives o.output (f a b c)) :
    o.Yields := by
  intro _ args _
  rw [hrule]
  unfold Rule.ternaryWith
  split
  · exact (hf _ _ _).lift
  · exact (hf _ _ _).lift
  · exact .error _

end Operator

/-! ## Arithmetic -/

namespace Arithmetic

open Operator Value

/-- Without dates a sum is one of numbers. -/
theorem gives_add {a b : Value} (h : Dateless [a, b]) : Gives .number (add a b) := by
  rw [add, dateLike?_eq_none h (by simp), dateLike?_eq_none h (by simp)]
  exact .map fun _ => .inl rfl

theorem gives_subtract {a b : Value} (h : Dateless [a, b]) : Gives .number (subtract a b) := by
  rw [subtract, dateLike?_eq_none h (by simp), dateLike?_eq_none h (by simp)]
  exact .map fun _ => .inl rfl

theorem gives_toMultiple (rounding : Number → Except Fault Int) (a step : Value) :
    Gives .number (toMultiple rounding a step) := by
  refine .ite (.ok (.inl rfl)) (.ite (.ok (.inl rfl)) ?_)
  refine .bind fun _ => .bind fun _ => .bind fun _ => .bind fun _ => .ite ?_ (.ok (.inl rfl))
  exact .bind fun _ => .ok (.inl rfl)

theorem yields_dividing {o : Operator} {id : String} {f : Number → Number → Except Fault Number}
    (hrule : o.rule = dividing id f) (houtput : o.output = .number) : o.Yields := by
  intro _ args _
  rw [hrule, houtput]
  unfold dividing
  split
  · exact .ite (.error _) (.lift (.map fun _ => .inl rfl))
  · exact .error _

theorem yields_operators : ∀ o ∈ operators, o.Yields := by
  simp only [operators, List.forall_mem_cons, List.not_mem_nil, false_implies, implies_true,
    and_true]
  exact ⟨yields_binary rfl fun _ _ => gives_add,
    yields_binary rfl fun _ _ => gives_subtract,
    yields_binary rfl fun _ _ _ => .map fun _ => .inl rfl,
    yields_dividing rfl rfl,
    yields_dividing rfl rfl,
    yields_binary rfl fun _ _ _ => .ok (fits_ofNumber? _),
    yields_unary rfl fun _ => .ok (.inl rfl),
    yields_unary rfl fun _ => .ok (.inl rfl),
    yields_unary rfl fun _ => .bind fun _ => .ok (fits_ofNumber? _),
    yields_binaryWith rfl fun _ _ => .map fun _ => .inl rfl,
    yields_binaryWith rfl (gives_toMultiple Number.floor),
    yields_binaryWith rfl (gives_toMultiple Number.ceil),
    yields_unary rfl fun _ => .ite (.ok (.inl rfl)) (.map fun _ => .inl rfl)⟩

end Arithmetic

/-! ## Logic -/

namespace Logic

open Operator

theorem yields_operators : ∀ o ∈ operators, o.Yields := by
  simp only [operators, comparisons, connectives, List.forall_mem_append, List.forall_mem_cons,
    List.not_mem_nil, false_implies, implies_true, and_true]
  exact ⟨⟨yields_binary rfl fun _ _ _ => .map fun _ => .inl rfl,
      yields_binary rfl fun _ _ _ => .bind fun _ => .ok (.inl rfl),
      yields_binary rfl fun _ _ _ => .ok (.inl rfl),
      yields_binary rfl fun _ _ _ => .ok (.inl rfl),
      yields_binary rfl fun _ _ _ => .ok (.inl rfl),
      yields_binary rfl fun _ _ _ => .ok (.inl rfl)⟩,
    yields_many rfl fun _ _ => .ok (.inl rfl),
    yields_many rfl fun _ _ => .ok (.inl rfl),
    yields_unary rfl fun _ => .ok (.inl rfl),
    yields_many rfl fun _ _ => .ok (.inl rfl),
    yields_any rfl⟩

end Logic

/-! ## Texts -/

namespace Texts

open Operator

theorem gives_substitute (v old new count : Value) :
    Gives .text (substitute v old new count) := by
  refine .bind fun _ => .bind fun _ => .ite (.ok (.inl rfl)) ?_
  exact .bind fun _ => .bind fun _ => .ok (.inl rfl)

theorem yields_substitute {o : Operator} (hrule : o.rule = substituteRule)
    (houtput : o.output = .text) : o.Yields := by
  intro _ args _
  rw [hrule, houtput]
  unfold substituteRule
  split
  · exact (gives_substitute _ _ _ _).lift
  · exact (gives_substitute _ _ _ _).lift
  · exact .error _

theorem gives_rept (v count : Value) : Gives .text (rept v count) := by
  refine .bind fun _ => .ite (.error _) (.ite (.error _) (.ite (.error _) ?_))
  exact .ok (.inl rfl)

theorem yields_operators : ∀ o ∈ operators, o.Yields := by
  simp only [operators, List.forall_mem_cons, List.not_mem_nil, false_implies, implies_true,
    and_true]
  exact ⟨yields_many rfl fun _ _ => .bind fun _ => .ok (.inl rfl),
    yields_unary rfl fun _ => .bind fun _ => .ok (.inl rfl),
    yields_unary rfl fun _ => .bind fun _ => .ok (.inl rfl),
    yields_unary rfl fun _ => .bind fun _ => .ok (.inl rfl),
    yields_unary rfl fun _ => .bind fun _ => .ok (.inl rfl),
    yields_binaryWith rfl fun _ _ => .ite (.bind fun _ => .ok (.inl rfl)) (.ok (.inl rfl)),
    yields_binaryWith rfl fun _ _ => .ite (.bind fun _ => .ok (.inl rfl)) (.ok (.inl rfl)),
    yields_ternary rfl fun _ _ _ => .bind fun _ => .ok (.inl rfl),
    yields_ternaryWith rfl fun _ _ _ => .bind fun _ => .bind fun _ => .ok (.inl rfl),
    yields_substitute rfl rfl,
    yields_binary rfl fun v count _ => gives_rept v count⟩

end Texts

/-! ## Aggregates -/

namespace Aggregates

open Operator Value

/-- Without dates the extreme is that of numbers, and there is none of no values. -/
theorem gives_extreme (beats : Ordering) {args : List Value} (h : Dateless args) :
    Gives .number (extreme beats args) := by
  unfold extreme
  dsimp only
  split
  next hdates =>
    rw [Lists.filter_eq_nil_of_all h hdates]
    exact .ok (.inr rfl)
  · exact .ok (fits_ofNumber? _)

theorem yields_operators : ∀ o ∈ operators, o.Yields := by
  simp only [operators, List.forall_mem_cons, List.not_mem_nil, false_implies, implies_true,
    and_true]
  exact ⟨yields_many rfl fun _ _ => .map fun _ => .inl rfl,
    yields_many rfl fun _ _ => .map fits_ofNumber?,
    yields_many rfl fun _ _ => .ok (.inl rfl),
    yields_many rfl fun _ _ => .ok (.inl rfl),
    yields_many rfl fun _ _ => .ok (.inl rfl),
    yields_many rfl fun _ => gives_extreme .lt,
    yields_many rfl fun _ => gives_extreme .gt,
    yields_binaryWith rfl fun _ _ => .bind fun _ => .bind fun _ => .ok (.inl rfl),
    yields_unary rfl fun _ => .map fun _ => .inl rfl,
    yields_any rfl,
    yields_any rfl⟩

theorem yields_trackedOperators : ∀ o ∈ trackedOperators, o.Yields := by
  simp only [trackedOperators, List.forall_mem_cons, List.not_mem_nil, false_implies,
    implies_true, and_true]
  exact ⟨yields_any rfl, yields_any rfl, yields_any rfl, yields_many rfl fun _ _ => .ok (.inl rfl)⟩

end Aggregates

/-! ## Dates -/

namespace Dates

open Operator Value

theorem gives_part (ofDate : Calendar.Date → Nat) (ofTime : DateTime → Nat) (v : Value) :
    Gives .number (part ofDate ofTime v) := by
  unfold part
  split
  · exact .ok (.inr rfl)
  · exact .ok (.inl rfl)
  · exact .ok (.inl rfl)

theorem gives_difference (start finish unit : Value) :
    Gives .number (difference start finish unit) := by
  unfold difference
  split
  · exact .ok (.inr rfl)
  · refine .bind fun found => ?_
    split
    · exact .ok (.inr rfl)
    · exact .ok (.inl rfl)
    · exact .ok (.inl rfl)
    · exact .ok (fits_integer? _)

theorem gives_shifted (v count unit : Value) : Gives .date (shifted v count unit) := by
  unfold shifted
  split
  · exact .ok (.inr rfl)
  · exact .bind fun _ => .ok (fits_dateLike? _)

theorem yields_operators (now : DateTime) : ∀ o ∈ operators now, o.Yields := by
  simp only [operators, List.forall_mem_cons, List.not_mem_nil, false_implies, implies_true,
    and_true]
  exact ⟨yields_nullary rfl (.inl rfl),
    yields_nullary rfl (.inl rfl),
    yields_unary rfl (gives_part _ _),
    yields_unary rfl (gives_part _ _),
    yields_unary rfl (gives_part _ _),
    yields_unary rfl (gives_part _ _),
    yields_unary rfl (gives_part _ _),
    yields_ternaryWith rfl gives_difference,
    yields_ternaryWith rfl gives_shifted⟩

end Dates

/-! ## Types and absent data -/

namespace Absence

open Operator Value

/-- A mark counts as a missing value. -/
theorem gives_mark (kind : MarkKind) (reason : Value) : Gives .null (mark kind reason) :=
  .ite (.ok (.inl rfl)) (.bind fun _ => .ok (.inl rfl))

theorem yields_mark {o : Operator} {kind : MarkKind} (hrule : o.rule = markRule kind)
    (houtput : o.output = .null) : o.Yields := by
  intro _ args _
  rw [hrule, houtput]
  unfold markRule
  split
  · exact (gives_mark _ _).lift
  · exact (gives_mark _ _).lift
  · exact .error _

theorem yields_typeOperators : ∀ o ∈ typeOperators, o.Yields := by
  simp only [typeOperators, List.forall_mem_cons, List.not_mem_nil, false_implies, implies_true,
    and_true]
  exact ⟨yields_unary rfl fun _ => .ok (fits_ofNumber? _),
    yields_unary rfl fun _ => .map fun _ => .inl rfl,
    yields_unary rfl fun _ => .ok (.inl rfl),
    yields_unary rfl fun _ => .ok (.inl rfl),
    yields_unary rfl fun _ => .ok (.inl rfl),
    yields_nullary rfl (.inl rfl)⟩

theorem yields_nullOperators : ∀ o ∈ nullOperators, o.Yields := by
  simp only [nullOperators, List.forall_mem_cons, List.not_mem_nil, false_implies, implies_true,
    and_true]
  exact ⟨yields_unary rfl fun _ => .ok (.inl rfl),
    yields_unary rfl fun _ => .ok (.inl rfl),
    yields_binary rfl fun _ _ _ => .map fun _ => .inl rfl,
    yields_binary rfl fun _ _ _ => .bind fun _ => .ok (.inl rfl),
    yields_any rfl,
    yields_any rfl,
    yields_mark rfl rfl,
    yields_mark rfl rfl,
    yields_unary rfl fun _ => .ok (.inl rfl),
    yields_unary rfl fun _ => .ok (.inl rfl),
    yields_many rfl fun _ _ => .ok (fits_truth _),
    yields_many rfl fun _ _ => .ok (fits_truth _),
    yields_unary rfl fun _ => .ok (fits_truth _),
    yields_binary rfl fun _ _ _ => .ite (.ok (.inl rfl)) (.bind fun _ => .ok (.inl rfl))⟩

end Absence

theorem yields_builtIn (now : DateTime) : ∀ o ∈ builtInOperators now, o.Yields := by
  simp only [builtInOperators, List.forall_mem_append]
  exact ⟨⟨⟨⟨⟨⟨⟨Arithmetic.yields_operators, Logic.yields_operators⟩, Texts.yields_operators⟩,
    Aggregates.yields_operators⟩, Dates.yields_operators now⟩, Absence.yields_typeOperators⟩,
    Absence.yields_nullOperators⟩, Aggregates.yields_trackedOperators⟩

/-- Given no dates, a built-in operator that declares a type gives a value of that type, or one that
counts as missing. -/
theorem typeOf_builtIn {now : DateTime} {o : Operator} (ho : o ∈ builtInOperators now)
    (hany : o.output ≠ .any) {args : List Value}
    (hdates : ∀ v ∈ Value.flatten args, v.isDate = false) {v : Value} (h : o.rule args = .ok v) :
    v.typeOf = o.output ∨ v.typeOf = .null :=
  yields_builtIn now o ho hany args hdates v h

/-- The least of some nested items is a number, texts being left out. -/
theorem typeOf_builtIn_minimum :
    ∃ o ∈ builtInOperators Registry.epoch, o.id = "MIN" ∧ o.output ≠ .any ∧
      ∃ args, args = [.list [.int 3, .text "x"], .int 1] ∧
        (∀ v ∈ Value.flatten args, v.isDate = false) ∧
        o.rule args = .ok (.int 1) ∧
        ((Value.int 1).typeOf = o.output ∨ (Value.int 1).typeOf = .null) := by
  have hmem : Aggregates.operators[5] ∈ builtInOperators Registry.epoch := by
    simp [builtInOperators]
  have hdates : ∀ v ∈ Value.flatten [.list [.int 3, .text "x"], .int 1], v.isDate = false := by
    simp [Value.flatten, Value.flat, Value.int, Value.isDate]
  have hrule : Aggregates.operators[5].rule [.list [.int 3, .text "x"], .int 1] = .ok (.int 1) :=
    rfl
  exact ⟨_, hmem, rfl, nofun, _, rfl, hdates, hrule, typeOf_builtIn hmem nofun hdates hrule⟩

end RecordCalc
