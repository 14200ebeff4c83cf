import RecordCalc.Pipeline.Simplify
import RecordCalc.Proofs.Operator.Faults
import RecordCalc.Proofs.Operator.Texts
import RecordCalc.Proofs.Outcomes

/-
  Simplification against the rules. A call is simplified by its identity element, by its absorbing
  element or because its two arguments are equal, and the cases say what is then known of the
  arguments (`simplify?_eq_some`). Where the laws of an operator hold of its rule on the arguments
  of some sort (`LawfulOn`), a call with such arguments simplifies to what the rule gives
  (`LawfulOn.rule_eq`). The built-in operators keep their laws on the sorts that they compute with:
  integers for arithmetic and for the extremes, truth values for logic and texts for joining.
-/

namespace RecordCalc

namespace Operator

variable {o : Operator} {args : List Value} {v : Value} {s : Simplification}

/-! ## What is known of a call that is simplified -/

theorem byIdentity_eq_some (h : o.byIdentity args = .ok (some v)) :
    o.obeys .identity = true ∧ ∃ a b, args = [a, b] ∧
      ((b.sameValue o.identity = .ok true ∧ v = a) ∨
        (o.identitySide = .both ∧ a.sameValue o.identity = .ok true ∧ v = b)) := by
  unfold byIdentity at h
  split at h
  · next a b hobeys =>
    refine ⟨hobeys, a, b, rfl, ?_⟩
    obtain ⟨right, hright, h⟩ := Outcomes.bind_eq_ok_iff.1 h
    cases right with
    | true =>
      cases h
      exact .inl ⟨hright, rfl⟩
    | false =>
      rw [if_neg nofun] at h
      split at h
      · next hboth =>
        obtain ⟨left, hleft, h⟩ := Outcomes.bind_eq_ok_iff.1 h
        cases left with
        | true =>
          cases h
          exact .inr ⟨hboth, hleft, rfl⟩
        | false => cases h
      · cases h
  · cases h

theorem anySame_eq_true (h : anySame v args = .ok true) :
    ∃ a ∈ args, a.sameValue v = .ok true := by
  induction args with
  | nil => cases h
  | cons a args ih =>
    obtain ⟨same, hsame, h⟩ := Outcomes.bind_eq_ok_iff.1 h
    cases same with
    | true => exact ⟨a, List.mem_cons_self, hsame⟩
    | false =>
      obtain ⟨b, hb, hsame⟩ := ih h
      exact ⟨b, List.mem_cons_of_mem _ hb, hsame⟩

theorem byAbsorbing_eq_some (h : o.byAbsorbing args = .ok (some v)) :
    o.obeys .absorbing = true ∧ v = o.keptAbsorbing ∧
      ∃ a ∈ args, a.sameValue o.keptAbsorbing = .ok true := by
  unfold byAbsorbing at h
  split at h
  · next hobeys =>
    obtain ⟨same, hsame, h⟩ := Outcomes.bind_eq_ok_iff.1 h
    cases same with
    | true =>
      cases h
      exact ⟨hobeys, rfl, anySame_eq_true hsame⟩
    | false => cases h
  · cases h

theorem byIdempotence_eq_some (h : o.byIdempotence args = .ok (some v)) :
    (o.obeys .idempotent && o.obeys .associative) = true ∧
      ∃ b, args = [v, b] ∧ v.sameValue b = .ok true := by
  unfold byIdempotence at h
  split at h
  · next a b hobeys =>
    obtain ⟨same, hsame, h⟩ := Outcomes.bind_eq_ok_iff.1 h
    cases same with
    | true =>
      cases h
      exact ⟨hobeys, b, rfl, hsame⟩
    | false => cases h
  · cases h

/-- A call is simplified by one of the three laws. -/
theorem simplify?_eq_some (h : o.simplify? args = .ok (some s)) :
    o.byIdentity args = .ok (some s.result) ∨ o.byAbsorbing args = .ok (some s.result) ∨
      o.byIdempotence args = .ok (some s.result) := by
  unfold simplify? at h
  obtain ⟨v?, hv, h⟩ := Outcomes.bind_eq_ok_iff.1 h
  cases v? with
  | some v =>
    cases h
    exact .inl hv
  | none =>
    obtain ⟨w?, hw, h⟩ := Outcomes.bind_eq_ok_iff.1 h
    cases w? with
    | some w =>
      cases h
      exact .inr (.inl hw)
    | none =>
      obtain ⟨u?, hu, h⟩ := Outcomes.bind_eq_ok_iff.1 h
      cases u? with
      | some u =>
        cases h
        exact .inr (.inr hu)
      | none => cases h

/-! ## Laws that hold -/

/-- A law that is not declared need not hold. -/
theorem undeclared {declared : Bool} {p : Prop} (h : declared = false) : declared = true → p :=
  Not.elim (ne_true_of_eq_false h)

/-- The laws that an operator declares hold of its rule on values of some sort, and values of that
sort that are the same are equal. -/
structure LawfulOn (o : Operator) (sort : Value → Prop) : Prop where
  eq_of_same : ∀ a b, sort a → sort b → a.sameValue b = .ok true → a = b
  identity_sort : o.obeys .identity = true →
    sort o.identity := by exact Operator.undeclared rfl
  right_identity : o.obeys .identity = true →
    ∀ a, sort a → o.rule [a, o.identity] = .ok a := by exact Operator.undeclared rfl
  left_identity : o.obeys .identity = true → o.identitySide = .both →
    ∀ a, sort a → o.rule [o.identity, a] = .ok a := by exact Operator.undeclared rfl
  absorbing_sort : o.obeys .absorbing = true →
    sort o.keptAbsorbing := by exact Operator.undeclared rfl
  absorbing : o.obeys .absorbing = true → ∀ args, (∀ a ∈ args, sort a) →
    o.accepts args.length = true → o.keptAbsorbing ∈ args →
    o.rule args = .ok o.keptAbsorbing := by exact Operator.undeclared rfl
  idempotent : (o.obeys .idempotent && o.obeys .associative) = true →
    ∀ a, sort a → o.rule [a, a] = .ok a := by exact Operator.undeclared rfl

/-- A call simplifies to what the rule gives. -/
theorem LawfulOn.rule_eq {sort : Value → Prop} (h : o.LawfulOn sort)
    (hargs : ∀ a ∈ args, sort a) (hcount : o.accepts args.length = true)
    (hs : o.simplify? args = .ok (some s)) : o.rule args = .ok s.result := by
  rcases simplify?_eq_some hs with hs | hs | hs
  · obtain ⟨hobeys, a, b, rfl, ⟨hsame, ha⟩ | ⟨hboth, hsame, hb⟩⟩ := byIdentity_eq_some hs
    · have hb := h.eq_of_same b _ (hargs b (by simp)) (h.identity_sort hobeys) hsame
      rw [ha, hb]
      exact h.right_identity hobeys a (hargs a (by simp))
    · have ha := h.eq_of_same a _ (hargs a (by simp)) (h.identity_sort hobeys) hsame
      rw [hb, ha]
      exact h.left_identity hobeys hboth b (hargs b (by simp))
  · obtain ⟨hobeys, hresult, a, ha, hsame⟩ := byAbsorbing_eq_some hs
    have hkept := h.eq_of_same a _ (hargs a ha) (h.absorbing_sort hobeys) hsame
    rw [hresult]
    exact h.absorbing hobeys args hargs hcount (hkept ▸ ha)
  · obtain ⟨hobeys, b, rfl, hsame⟩ := byIdempotence_eq_some hs
    have hb := h.eq_of_same _ b (hargs _ (by simp)) (hargs b (by simp)) hsame
    rw [← hb]
    exact h.idempotent hobeys _ (hargs _ (by simp))

end Operator

/-! ## The sorts that the built-in operators compute with -/

namespace Value

/-- The value is an integer. -/
def IsInt (v : Value) : Prop := ∃ n, v = .int n

/-- The value is a truth value. -/
def IsBool (v : Value) : Prop := ∃ b, v = .bool b

/-- The value is a text. -/
def IsText (v : Value) : Prop := ∃ s, v = .text s

theorem sameValue_int (m n : Int) : (int m).sameValue (int n) = .ok (m == n) := by
  simp [sameValue, int, typeOf, equal, equalNumeric, numeric?, Numeric.equal, Number.equal]

theorem sameValue_bool (a b : Bool) : (bool a).sameValue (bool b) = .ok (a == b) := rfl

theorem sameValue_text (s t : String) : (text s).sameValue (text t) = .ok (s == t) := by
  simp [sameValue, typeOf, equal]

theorem eq_of_sameValue_int (a b : Value) (ha : a.IsInt) (hb : b.IsInt)
    (h : a.sameValue b = .ok true) : a = b := by
  obtain ⟨m, rfl⟩ := ha
  obtain ⟨n, rfl⟩ := hb
  rw [sameValue_int] at h
  rw [eq_of_beq (Except.ok.inj h)]

theorem eq_of_sameValue_bool (a b : Value) (ha : a.IsBool) (hb : b.IsBool)
    (h : a.sameValue b = .ok true) : a = b := by
  obtain ⟨x, rfl⟩ := ha
  obtain ⟨y, rfl⟩ := hb
  rw [sameValue_bool] at h
  rw [eq_of_beq (Except.ok.inj h)]

theorem eq_of_sameValue_text (a b : Value) (ha : a.IsText) (hb : b.IsText)
    (h : a.sameValue b = .ok true) : a = b := by
  obtain ⟨s, rfl⟩ := ha
  obtain ⟨t, rfl⟩ := hb
  rw [sameValue_text] at h
  rw [eq_of_beq (Except.ok.inj h)]

end Value

/-! ## Arithmetic on integers -/

namespace Arithmetic

theorem add_int (m n : Int) : add (.int m) (.int n) = .ok (.int (m + n)) := rfl

theorem subtract_int (m n : Int) : subtract (.int m) (.int n) = .ok (.int (m - n)) := rfl

theorem multiply_int (m n : Int) : multiply (.int m) (.int n) = .ok (.int (m * n)) := rfl

theorem divide_one (id : String) (n : Int) :
    dividing id Number.div [.int n, .int 1] = .ok (.int n) := by
  have hdiv : Number.div (.int n) (.int 1) = .ok (.int n) := by
    rw [Number.div, Int.fmod_one, if_pos rfl, Int.fdiv_one]
  have hzero : (Value.int 1).toNumber.isZero = false := rfl
  rw [dividing, hzero, if_neg nofun]
  exact congrArg (fun r => Rule.lift (Value.number <$> r)) hdiv

theorem lawfulOn_add : operators[0].LawfulOn Value.IsInt where
  eq_of_same := Value.eq_of_sameValue_int
  identity_sort _ := ⟨0, rfl⟩
  right_identity := by
    rintro - _ ⟨n, rfl⟩
    exact congrArg Rule.lift ((add_int n 0).trans (by rw [Int.add_zero]))
  left_identity := by
    rintro - - _ ⟨n, rfl⟩
    exact congrArg Rule.lift ((add_int 0 n).trans (by rw [Int.zero_add]))

theorem lawfulOn_subtract : operators[1].LawfulOn Value.IsInt where
  eq_of_same := Value.eq_of_sameValue_int
  identity_sort _ := ⟨0, rfl⟩
  right_identity := by
    rintro - _ ⟨n, rfl⟩
    exact congrArg Rule.lift ((subtract_int n 0).trans (by rw [Int.sub_zero]))
  left_identity := by rintro - ⟨⟩

theorem lawfulOn_multiply : operators[2].LawfulOn Value.IsInt where
  eq_of_same := Value.eq_of_sameValue_int
  identity_sort _ := ⟨1, rfl⟩
  right_identity := by
    rintro - _ ⟨n, rfl⟩
    exact congrArg Rule.lift ((multiply_int n 1).trans (by rw [Int.mul_one]))
  left_identity := by
    rintro - - _ ⟨n, rfl⟩
    exact congrArg Rule.lift ((multiply_int 1 n).trans (by rw [Int.one_mul]))
  absorbing_sort _ := ⟨0, rfl⟩
  absorbing := by
    intro _ args hargs hcount hzero
    obtain ⟨a, b, rfl⟩ := Operator.exists_pair rfl rfl hcount
    obtain ⟨m, rfl⟩ := hargs a (by simp)
    obtain ⟨n, rfl⟩ := hargs b (by simp)
    change Value.int 0 ∈ [Value.int m, Value.int n] at hzero
    refine congrArg Rule.lift ((multiply_int m n).trans (congrArg (Except.ok ∘ Value.int) ?_))
    simp only [List.mem_cons, List.not_mem_nil, or_false, Value.int, Value.number.injEq,
      Number.int.injEq] at hzero
    rcases hzero with rfl | rfl
    · exact Int.zero_mul n
    · exact Int.mul_zero m

theorem lawfulOn_divide : operators[3].LawfulOn Value.IsInt where
  eq_of_same := Value.eq_of_sameValue_int
  identity_sort _ := ⟨1, rfl⟩
  right_identity := by
    rintro - _ ⟨n, rfl⟩
    exact divide_one "DIVIDE" n
  left_identity := by rintro - ⟨⟩

/-- The four operations keep their laws on integers. -/
theorem lawfulOn_operators : ∀ o ∈ operators.take 4, o.LawfulOn Value.IsInt := by
  have hfour : operators.take 4 = [operators[0], operators[1], operators[2], operators[3]] := rfl
  simp only [hfour, List.forall_mem_cons, List.not_mem_nil, false_implies, implies_true, and_true]
  exact ⟨lawfulOn_add, lawfulOn_subtract, lawfulOn_multiply, lawfulOn_divide⟩

end Arithmetic

/-! ## Logic on truth values -/

namespace Logic

/-- What decides a connective among the truth values. -/
theorem toBoolean_bool (b : Bool) : (Value.bool b).toBoolean = b := by
  cases b <;> rfl

theorem lawfulOn_and : connectives[0].LawfulOn Value.IsBool where
  eq_of_same := Value.eq_of_sameValue_bool
  identity_sort _ := ⟨true, rfl⟩
  right_identity := by
    rintro - _ ⟨b, rfl⟩
    cases b <;> rfl
  left_identity := by
    rintro - - _ ⟨b, rfl⟩
    cases b <;> rfl
  absorbing_sort _ := ⟨false, rfl⟩
  absorbing := by
    intro _ args _ _ hfalse
    have hall : args.all (·.toBoolean) = false :=
      List.all_eq_false.2 ⟨.bool false, hfalse, by simp [toBoolean_bool]⟩
    exact congrArg (fun b => Except.ok (Value.bool b)) hall
  idempotent := by
    rintro - _ ⟨b, rfl⟩
    cases b <;> rfl

theorem lawfulOn_or : connectives[1].LawfulOn Value.IsBool where
  eq_of_same := Value.eq_of_sameValue_bool
  identity_sort _ := ⟨false, rfl⟩
  right_identity := by
    rintro - _ ⟨b, rfl⟩
    cases b <;> rfl
  left_identity := by
    rintro - - _ ⟨b, rfl⟩
    cases b <;> rfl
  absorbing_sort _ := ⟨true, rfl⟩
  absorbing := by
    intro _ args _ _ htrue
    have hany : args.any (·.toBoolean) = true :=
      List.any_eq_true.2 ⟨.bool true, htrue, toBoolean_bool true⟩
    exact congrArg (fun b => Except.ok (Value.bool b)) hany
  idempotent := by
    rintro - _ ⟨b, rfl⟩
    cases b <;> rfl

/-- The connectives keep their laws on truth values. -/
theorem lawfulOn_connectives : ∀ o ∈ connectives.take 2, o.LawfulOn Value.IsBool := by
  have htwo : connectives.take 2 = [connectives[0], connectives[1]] := rfl
  simp only [htwo, List.forall_mem_cons, List.not_mem_nil, false_implies, implies_true, and_true]
  exact ⟨lawfulOn_and, lawfulOn_or⟩

end Logic

/-! ## Extremes of integers -/

namespace Aggregates

theorem extreme_same (beats : Ordering) (n : Int) :
    extreme beats [.int n, .int n] = .ok (.int n) := by
  have hpick : pickBy id beats [Number.int n, Number.int n] = some (Number.int n) := by
    simp [pickBy]
  change Except.ok (Value.ofNumber? (pickBy id beats [Number.int n, Number.int n])) = _
  rw [hpick]
  rfl

theorem lawfulOn_min : operators[5].LawfulOn Value.IsInt where
  eq_of_same := Value.eq_of_sameValue_int
  idempotent := by
    rintro - _ ⟨n, rfl⟩
    exact congrArg Rule.lift (extreme_same _ n)

theorem lawfulOn_max : operators[6].LawfulOn Value.IsInt where
  eq_of_same := Value.eq_of_sameValue_int
  idempotent := by
    rintro - _ ⟨n, rfl⟩
    exact congrArg Rule.lift (extreme_same _ n)

/-- The extremes keep their laws on integers. -/
theorem lawfulOn_extremes : ∀ o ∈ (operators.drop 5).take 2, o.LawfulOn Value.IsInt := by
  have htwo : (operators.drop 5).take 2 = [operators[5], operators[6]] := rfl
  simp only [htwo, List.forall_mem_cons, List.not_mem_nil, false_implies, implies_true, and_true]
  exact ⟨lawfulOn_min, lawfulOn_max⟩

end Aggregates

/-! ## Joining texts -/

namespace Texts

/-- Joining keeps its law on texts. -/
theorem lawfulOn_concat : operators[0].LawfulOn Value.IsText where
  eq_of_same := Value.eq_of_sameValue_text
  identity_sort _ := ⟨"", rfl⟩
  right_identity := by
    rintro - _ ⟨s, rfl⟩
    exact congrArg Rule.lift ((concat_pair s "").trans (by rw [String.append_empty]))
  left_identity := by
    rintro - - _ ⟨s, rfl⟩
    exact congrArg Rule.lift ((concat_pair "" s).trans (by rw [String.empty_append]))

end Texts

/-! ## The built-in operators -/

namespace Pipeline

open Calendar (DateTime)

/-- The arguments of a call are all of the sort that its operator computes with: integers for the
four operations and the extremes, truth values for the connectives and texts for joining. -/
inductive HasOwnSort (id : String) (args : List Value) : Prop
  | ints : id ∈ ["ADD", "SUBTRACT", "MULTIPLY", "DIVIDE", "MIN", "MAX"] →
      (∀ a ∈ args, a.IsInt) → HasOwnSort id args
  | bools : id ∈ ["AND", "OR"] → (∀ a ∈ args, a.IsBool) → HasOwnSort id args
  | texts : id = "CONCAT" → (∀ a ∈ args, a.IsText) → HasOwnSort id args

/-- On arguments of the sort of its operator, a call simplifies to what the rule gives. -/
theorem rule_eq_of_simplify? {now : DateTime} {o : Operator} {args : List Value}
    {s : Simplification} (ho : o ∈ builtInOperators now) (hown : HasOwnSort o.id args)
    (hcount : o.accepts args.length = true) (hs : o.simplify? args = .ok (some s)) :
    o.rule args = .ok s.result := by
  cases hown with
  | ints hid hargs =>
    have hmem : o ∈ Arithmetic.operators.take 4 ++ (Aggregates.operators.drop 5).take 2 := by
      refine Registry.mem_of_id_mem ho (fun p hp => ?_) hid
      rcases List.mem_append.1 hp with hp | hp
      · simp [builtInOperators, List.mem_of_mem_take hp]
      · simp [builtInOperators, List.mem_of_mem_drop (List.mem_of_mem_take hp)]
    have hlawful : o.LawfulOn Value.IsInt := by
      rcases List.mem_append.1 hmem with hmem | hmem
      · exact Arithmetic.lawfulOn_operators o hmem
      · exact Aggregates.lawfulOn_extremes o hmem
    exact hlawful.rule_eq hargs hcount hs
  | bools hid hargs =>
    have hmem : o ∈ Logic.connectives.take 2 := by
      refine Registry.mem_of_id_mem ho (fun p hp => ?_) hid
      simp [builtInOperators, Logic.operators, List.mem_of_mem_take hp]
    exact (Logic.lawfulOn_connectives o hmem).rule_eq hargs hcount hs
  | texts hid hargs =>
    have hmem : Texts.operators[0] ∈ builtInOperators now := by simp [builtInOperators]
    obtain rfl : o = Texts.operators[0] := Registry.eq_of_id_eq ho hmem hid
    exact Texts.lawfulOn_concat.rule_eq hargs hcount hs

end Pipeline

end RecordCalc
