import RecordCalc.Proofs.Outcomes
import RecordCalc.Proofs.Value.Faults

/-
  Comparisons that come to a decimal that signals. Two composed values are compared part by part,
  up to the first pair of parts that differ (`pairs`); a pair of numbers cannot be compared when one
  of them signals. A comparison fails just when it comes to such a pair, all pairs before it being
  equal (`fails_equal`).
-/

namespace RecordCalc.Value

/-! ## The parts that are compared -/

/-- The entries of a map with those of the same names, up to the first without one. -/
def entryPairs : List (String × Value) → List (String × Value) → List (Value × Value)
  | [], _ => []
  | (name, v) :: rest, others =>
    match lookup others name with
    | none => []
    | some w => (v, w) :: entryPairs rest others

/-- The values and times of observations in turn. -/
def observationPairs : List (Value × Value) → List (Value × Value) → List (Value × Value)
  | (v, t) :: rest, (v', t') :: rest' => (v, v') :: (t, t') :: observationPairs rest rest'
  | _, _ => []

/-- The parts of two values that are compared in turn, none unless both are composed alike. -/
def pairs : Value → Value → List (Value × Value)
  | list a, list b => if a.length = b.length then a.zip b else []
  | tuple a, tuple b => a.zip b
  | map a, map b => if a.length = b.length then entryPairs a b else []
  | cell a, cell b => if a.length = b.length then observationPairs a b else []
  | observation v t, observation v' t' => [(v, v'), (t, t')]
  | step o a, step o' b => if o == o' then a.zip b else []
  | _, _ => []

/-- Two parts are found equal. -/
def Agrees (v w : Value) : Prop := isSamePart v w = true ∨ v.equal w = .ok true

/-- Both values compare as numbers and one of them signals. -/
def NumbersSignal (v w : Value) : Prop :=
  v.numeric?.isSome = true ∧ w.numeric?.isSome = true ∧ (v.IsSignaling ∨ w.IsSignaling)

/-- The comparison of two values comes to a pair of numbers one of which signals. -/
inductive Signals : Value → Value → Prop
  | numbers {v w : Value} : NumbersSignal v w → Signals v w
  | part {v w v' w' : Value} {before after : List (Value × Value)} :
      pairs v w = before ++ (v', w') :: after → (∀ p ∈ before, Agrees p.1 p.2) →
      isSamePart v' w' = false → Signals v' w' → Signals v w

/-! ## Comparing pair by pair -/

/-- Equality of pairs in turn, up to the first that differ. -/
def equalPairs : List (Value × Value) → Except Fault Bool
  | [] => .ok true
  | (v, w) :: ps => do
    if ← (if isSamePart v w then .ok true else equal v w) then equalPairs ps else return false

/-- The first part of a comparison in turn, and what follows. -/
theorem fails_turn {v w : Value} {x y : Except Fault Bool} (h : Fails x ↔ Fails y) :
    Fails (do if ← (if isSamePart v w then .ok true else equal v w) then x else return false) ↔
      Fails (do
        if ← (if isSamePart v w then .ok true else equal v w) then y else return false) := by
  cases (if isSamePart v w then .ok true else equal v w : Except Fault Bool) with
  | error f => exact iff_of_true ⟨f, rfl⟩ ⟨f, rfl⟩
  | ok same =>
    cases same with
    | false => exact Iff.rfl
    | true => exact h

theorem equalPairs_singleton (v w : Value) :
    equalPairs [(v, w)] = if isSamePart v w then .ok true else equal v w := by
  rw [equalPairs, equalPairs]
  cases (if isSamePart v w then .ok true else equal v w : Except Fault Bool) with
  | error f => rfl
  | ok same => cases same <;> rfl

theorem fails_equalItems (a b : List Value) :
    Fails (equalItems a b) ↔ Fails (equalPairs (a.zip b)) := by
  induction a generalizing b with
  | nil => cases b <;> simp [equalItems, equalPairs]
  | cons v a ih =>
    cases b with
    | nil => simp [equalItems, equalPairs]
    | cons w b =>
      rw [equalItems, List.zip_cons_cons, equalPairs]
      exact fails_turn (ih b)

theorem fails_equalEntries (a b : List (String × Value)) :
    Fails (equalEntries a b) ↔ Fails (equalPairs (entryPairs a b)) := by
  induction a with
  | nil => simp [equalEntries, entryPairs, equalPairs]
  | cons e a ih =>
    obtain ⟨name, v⟩ := e
    rw [entryPairs, equalEntries]
    cases lookup b name with
    | none => simp [equalPairs]
    | some w =>
      dsimp only
      rw [equalPairs]
      exact fails_turn ih

theorem fails_equalObservations (a b : List (Value × Value)) :
    Fails (equalObservations a b) ↔ Fails (equalPairs (observationPairs a b)) := by
  induction a generalizing b with
  | nil => cases b <;> simp [equalObservations, observationPairs, equalPairs]
  | cons o a ih =>
    obtain ⟨v, t⟩ := o
    cases b with
    | nil => simp [equalObservations, observationPairs, equalPairs]
    | cons o' b =>
      rw [equalObservations, observationPairs, equalPairs, equalPairs]
      exact fails_turn (fails_turn (ih b))

theorem turn_of_agrees {v w : Value} (h : Agrees v w) :
    (if isSamePart v w then .ok true else equal v w) = (.ok true : Except Fault Bool) := by
  rcases h with hsame | hequal
  · rw [if_pos hsame]
  · rw [hequal, ite_self]

theorem fails_equalPairs_cons (p : Value × Value) (ps : List (Value × Value)) :
    Fails (equalPairs (p :: ps)) ↔
      (isSamePart p.1 p.2 = false ∧ Fails (p.1.equal p.2)) ∨
        Agrees p.1 p.2 ∧ Fails (equalPairs ps) := by
  obtain ⟨v, w⟩ := p
  dsimp only
  rw [equalPairs]
  by_cases hagrees : Agrees v w
  · rw [turn_of_agrees hagrees]
    have hequal : ¬ (isSamePart v w = false ∧ Fails (v.equal w)) := by
      rintro ⟨hpart, hfails⟩
      rcases hagrees with hsame | htrue
      · rw [hsame] at hpart
        cases hpart
      · rw [htrue] at hfails
        exact not_fails_ok true hfails
    rw [or_iff_right hequal, and_iff_right hagrees]
    rfl
  · obtain ⟨hsame, hequal⟩ := not_or.1 hagrees
    rw [if_neg hsame, and_iff_right (Bool.not_eq_true _ ▸ hsame),
      or_iff_left fun h => hagrees h.1, fails_bind]
    refine or_iff_left ?_
    rintro ⟨same, htrue, h⟩
    cases same with
    | true => exact hequal htrue
    | false => exact not_fails_pure _ h

/-- Pairs cannot be compared in turn when the first that is not equal cannot be compared. -/
theorem fails_equalPairs_iff (ps : List (Value × Value)) :
    Fails (equalPairs ps) ↔ ∃ before v w after, ps = before ++ (v, w) :: after ∧
      (∀ p ∈ before, Agrees p.1 p.2) ∧ isSamePart v w = false ∧ Fails (v.equal w) := by
  rw [Lists.exists_first_iff (fun ps => Fails (equalPairs ps)) (not_fails_ok true)
    fails_equalPairs_cons]
  simp only [Prod.exists]

/-! ## Comparing values -/

theorem fails_decimal (a b : Decimal) :
    Fails (a.equal b) ↔ (decimal a).IsSignaling ∨ (decimal b).IsSignaling := by
  -- Of the pairs of kinds only two finite decimals are looked at more closely.
  rcases a with ⟨s, c, e⟩ | s | ⟨_ | _, s, p, o⟩ <;>
    rcases b with ⟨s', c', e'⟩ | s' | ⟨_ | _, s', p', o'⟩ <;>
    simp [Decimal.equal, IsSignaling]
  split
  · exact not_fails_ok _
  · split <;> exact not_fails_ok _

theorem not_isSignaling_of_number {v : Value} {n : Number} (h : v.numeric? = some (.number n)) :
    ¬ v.IsSignaling := by
  cases v with
  | decimal d => cases h
  | _ => exact id

theorem not_isSignaling_ofNumber (n : Number) : ¬ (decimal (.ofNumber n)).IsSignaling :=
  fun h => Decimal.not_hasSignaling_ofNumber n (.self h)

/-- Numbers cannot be compared when one of them signals. -/
theorem fails_numeric {v w : Value} {a b : Numeric} (hv : v.numeric? = some a)
    (hw : w.numeric? = some b) : Fails (a.equal b) ↔ v.IsSignaling ∨ w.IsSignaling := by
  match a, b with
  | .number a, .number b =>
    exact iff_of_false (not_fails_ok _)
      (not_or.2 ⟨not_isSignaling_of_number hv, not_isSignaling_of_number hw⟩)
  | .number a, .decimal b =>
    obtain rfl := eq_of_numeric?_decimal hw
    rw [Numeric.equal, fails_decimal, or_iff_right (not_isSignaling_ofNumber a),
      or_iff_right (not_isSignaling_of_number hv)]
  | .decimal a, .number b =>
    obtain rfl := eq_of_numeric?_decimal hv
    rw [Numeric.equal, fails_decimal, or_iff_left (not_isSignaling_ofNumber b),
      or_iff_left (not_isSignaling_of_number hw)]
  | .decimal a, .decimal b =>
    obtain rfl := eq_of_numeric?_decimal hv
    obtain rfl := eq_of_numeric?_decimal hw
    exact fails_decimal a b

theorem fails_equalNumeric (v w : Value) : Fails (equalNumeric v w) ↔ NumbersSignal v w := by
  unfold equalNumeric NumbersSignal
  split
  next a b hv hw =>
    rw [fails_numeric hv hw]
    simp [hv, hw]
  next hnone =>
    refine iff_of_false (not_fails_ok _) ?_
    rintro ⟨hv, hw, -⟩
    obtain ⟨a, ha⟩ := Option.isSome_iff_exists.1 hv
    obtain ⟨b, hb⟩ := Option.isSome_iff_exists.1 hw
    exact hnone a b ha hb

theorem not_numbersSignal {v w : Value} (h : v.numeric? = none) : ¬ NumbersSignal v w := by
  rintro ⟨hsome, -⟩
  rw [h] at hsome
  cases hsome

section
variable {v w : Value} {x : Except Fault Bool}

/-- Values that hold none to compare. -/
theorem fails_of_pairs_nil {p : Prop} (hpairs : pairs v w = []) (h : Fails x ↔ p) :
    Fails x ↔ p ∨ Fails (equalPairs (pairs v w)) := by
  rw [hpairs, equalPairs, or_iff_left (not_fails_ok true)]
  exact h

/-- Values without parts that are compared and without numbers. -/
theorem fails_of_plain (hv : v.numeric? = none) (hpairs : pairs v w = []) (same : Bool) :
    Fails (.ok same : Except Fault Bool) ↔ NumbersSignal v w ∨ Fails (equalPairs (pairs v w)) :=
  fails_of_pairs_nil hpairs (iff_of_false (not_fails_ok same) (not_numbersSignal hv))

/-- Values that are compared by their parts. -/
theorem fails_of_composed (hv : v.numeric? = none)
    (h : Fails x ↔ Fails (equalPairs (pairs v w))) :
    Fails x ↔ NumbersSignal v w ∨ Fails (equalPairs (pairs v w)) := by
  rw [or_iff_right (not_numbersSignal hv)]
  exact h

/-- Under a condition on the values only their parts are compared. -/
theorem fails_same {c : Prop} [Decidable c] {ps : List (Value × Value)}
    (h : Fails x ↔ Fails (equalPairs ps)) :
    Fails (if c then x else .ok false) ↔ Fails (equalPairs (if c then ps else [])) := by
  split
  · exact h
  · exact iff_of_false (not_fails_ok false) (not_fails_ok true)

end

/-- A comparison fails for the numbers that it compares or for the parts that it compares. -/
theorem fails_parts (v w : Value) :
    Fails (v.equal w) ↔ NumbersSignal v w ∨ Fails (equalPairs (pairs v w)) := by
  unfold equal
  split
  · exact fails_of_pairs_nil rfl (fails_equalNumeric _ _)
  · exact fails_of_pairs_nil rfl (fails_equalNumeric _ _)
  · exact fails_of_pairs_nil rfl (fails_equalNumeric _ _)
  · exact fails_of_plain rfl rfl _
  · exact fails_of_plain rfl rfl _
  · exact fails_of_plain rfl rfl _
  · exact fails_of_plain rfl rfl _
  · exact fails_of_plain rfl rfl _
  next a b => exact fails_of_composed rfl (fails_same (fails_equalItems a b))
  next a b => exact fails_of_composed rfl (fails_equalItems a b)
  next a b => exact fails_of_composed rfl (fails_same (fails_equalEntries a b))
  · exact fails_of_plain rfl rfl _
  · exact fails_of_plain rfl rfl _
  next a b => exact fails_of_composed rfl (fails_same (fails_equalObservations a b))
  next v t v' t' =>
    exact fails_of_composed rfl (fails_turn (by rw [equalPairs_singleton]; rfl))
  · exact fails_of_plain rfl rfl _
  next a _ b => exact fails_of_composed rfl (fails_same (fails_equalItems _ _))
  · -- Values of different kinds, none of which is a number, hold no parts to compare.
    have hpairs : pairs v w = [] := by
      unfold pairs
      split <;> grind
    have hv : v.numeric? = none := by
      unfold numeric?
      split <;> grind
    exact fails_of_plain hv hpairs _

theorem mem_of_mem_entryPairs {a b : List (String × Value)} {p : Value × Value}
    (h : p ∈ entryPairs a b) : p.1 ∈ (map a).held ∧ p.2 ∈ (map b).held := by
  induction a with
  | nil => cases h
  | cons e a ih =>
    obtain ⟨name, v⟩ := e
    rw [entryPairs] at h
    split at h
    · cases h
    next w hw =>
      rcases List.mem_cons.1 h with rfl | h
      · exact ⟨List.mem_cons_self, mem_held_of_lookup hw⟩
      · exact ⟨List.mem_cons_of_mem _ (ih h).1, (ih h).2⟩

theorem mem_of_mem_observationPairs {a b : List (Value × Value)} {p : Value × Value}
    (h : p ∈ observationPairs a b) : p.1 ∈ (cell a).held ∧ p.2 ∈ (cell b).held := by
  induction a, b using observationPairs.induct with
  | case1 v t a v' t' b ih =>
    rw [observationPairs] at h
    rcases List.mem_cons.1 h with rfl | h
    · exact ⟨List.mem_cons_self, List.mem_cons_self⟩
    rcases List.mem_cons.1 h with rfl | h
    · exact ⟨List.mem_cons_of_mem _ List.mem_cons_self,
        List.mem_cons_of_mem _ List.mem_cons_self⟩
    · exact ⟨List.mem_cons_of_mem _ (List.mem_cons_of_mem _ (ih h).1),
        List.mem_cons_of_mem _ (List.mem_cons_of_mem _ (ih h).2)⟩
  | case2 a b hab =>
    rw [observationPairs] at h
    · cases h
    · exact hab

/-- Only parts are compared. -/
theorem mem_held_of_mem_pairs {v w : Value} {p : Value × Value} (h : p ∈ pairs v w) :
    p.1 ∈ v.held ∧ p.2 ∈ w.held := by
  unfold pairs at h
  split at h
  · exact List.of_mem_zip (List.mem_ite_nil_right.1 h).2
  · exact List.of_mem_zip h
  · exact mem_of_mem_entryPairs (List.mem_ite_nil_right.1 h).2
  · exact mem_of_mem_observationPairs (List.mem_ite_nil_right.1 h).2
  next v t v' t' =>
    rcases List.mem_cons.1 h with rfl | h
    · exact ⟨List.mem_cons_self, List.mem_cons_self⟩
    · obtain rfl := List.mem_singleton.1 h
      have hsnd {a b : Value} : b ∈ [a, b] := List.mem_cons_of_mem _ List.mem_cons_self
      exact ⟨hsnd, hsnd⟩
  · exact List.of_mem_zip (List.mem_ite_nil_right.1 h).2
  · cases h

theorem sizeOf_lt_of_mem_held {v v' : Value} (h : v' ∈ v.held) : sizeOf v' < sizeOf v := by
  unfold held at h
  split at h
  next vs =>
    have hlt := List.sizeOf_lt_of_mem h
    rw [list.sizeOf_spec]
    omega
  next vs =>
    have hlt := List.sizeOf_lt_of_mem h
    rw [tuple.sizeOf_spec]
    omega
  next o vs =>
    have hlt := List.sizeOf_lt_of_mem h
    rw [step.sizeOf_spec]
    omega
  next es =>
    obtain ⟨⟨name, v⟩, he, rfl⟩ := List.mem_map.1 h
    have hlt := List.sizeOf_lt_of_mem he
    rw [Prod.mk.sizeOf_spec] at hlt
    rw [map.sizeOf_spec]
    dsimp only
    omega
  next os =>
    obtain ⟨⟨v, t⟩, ho, hv⟩ := List.mem_flatMap.1 h
    have hlt := List.sizeOf_lt_of_mem ho
    rw [Prod.mk.sizeOf_spec] at hlt
    rw [cell.sizeOf_spec]
    rcases List.mem_cons.1 hv with rfl | hv
    · omega
    · obtain rfl := List.mem_singleton.1 hv
      omega
  next v t =>
    rw [observation.sizeOf_spec]
    rcases List.mem_cons.1 h with rfl | h
    · omega
    · obtain rfl := List.mem_singleton.1 h
      omega
  · cases h

theorem signals_of_fails (v w : Value) (h : Fails (v.equal w)) : Signals v w := by
  rcases (fails_parts v w).1 h with hnumbers | hparts
  · exact .numbers hnumbers
  · obtain ⟨before, v', w', after, hsplit, hbefore, hsame, hfails⟩ :=
      (fails_equalPairs_iff _).1 hparts
    have hmem : (v', w') ∈ pairs v w := by
      rw [hsplit]
      exact List.mem_append_right _ List.mem_cons_self
    have hsize := sizeOf_lt_of_mem_held (mem_held_of_mem_pairs hmem).1
    exact .part hsplit hbefore hsame (signals_of_fails v' w' hfails)
termination_by sizeOf v

/-- A comparison fails when it comes to numbers one of which signals. -/
theorem fails_equal (v w : Value) : Fails (v.equal w) ↔ Signals v w := by
  refine ⟨signals_of_fails v w, fun h => ?_⟩
  induction h with
  | numbers h => exact (fails_parts _ _).2 (.inl h)
  | part hsplit hbefore hsame h ih =>
    refine (fails_parts _ _).2 (.inr ?_)
    exact (fails_equalPairs_iff _).2 ⟨_, _, _, _, hsplit, hbefore, hsame, ih⟩

/-! ## Comparisons of formulas -/

/-- The value is neither a number nor composed, so that its comparison comes to no numbers. -/
def IsPlain (v : Value) : Prop := v.numeric? = none ∧ v.held = []

theorem not_signals {v w : Value} (h : v.IsPlain ∨ w.IsPlain) : ¬ Signals v w := by
  rintro (⟨hv, hw, -⟩ | ⟨hsplit, -⟩)
  · rcases h with ⟨hnone, -⟩ | ⟨hnone, -⟩
    · simp [hnone] at hv
    · simp [hnone] at hw
  · have hmem := mem_held_of_mem_pairs (hsplit ▸ List.mem_append_right _ List.mem_cons_self)
    rcases h with ⟨-, hnil⟩ | ⟨-, hnil⟩
    · simp [hnil] at hmem
    · simp [hnil] at hmem

theorem isPlain_of_isAbsent {v : Value} {emptyText : Bool} (h : v.isAbsent emptyText = true) :
    v.IsPlain := by
  cases v <;> first | exact ⟨rfl, rfl⟩ | cases h

theorem isPlain_of_isUnknown {v : Value} (h : v.isUnknown = true) : v.IsPlain := by
  cases v <;> first | exact ⟨rfl, rfl⟩ | cases h

theorem isPlain_of_isDate {v : Value} (h : v.isDate = true) : v.IsPlain := by
  cases v <;> first | exact ⟨rfl, rfl⟩ | cases h

theorem not_signals_of_isAbsent {v w : Value} {emptyText : Bool}
    (h : (v.isAbsent emptyText || w.isAbsent emptyText) = true) : ¬ Signals v w :=
  not_signals ((Bool.or_eq_true_iff.1 h).imp isPlain_of_isAbsent isPlain_of_isAbsent)

theorem not_signals_of_isUnknown {v w : Value} (h : (v.isUnknown || w.isUnknown) = true) :
    ¬ Signals v w :=
  not_signals ((Bool.or_eq_true_iff.1 h).imp isPlain_of_isUnknown isPlain_of_isUnknown)

/-- Of the truth values only those of two-valued logic compare as numbers. -/
theorem isPlain_of_boolean {v : Value} (h : v.typeOf = .boolean) (hbool : ∀ b, v ≠ bool b) :
    v.IsPlain := by
  cases v <;> first | exact ⟨rfl, rfl⟩ | exact absurd rfl (hbool _) | cases h

theorem not_signals_bool {a b : Bool} : ¬ Signals (bool a) (bool b) := by
  rintro (⟨-, -, h | h⟩ | ⟨hsplit, -⟩)
  · exact h
  · exact h
  · exact absurd hsplit (by simp [pairs])

/-- Equality in formulas reads numbers as numbers, so that it fails only for other values. -/
theorem fails_equals (v w : Value) :
    Fails (v.equals w) ↔ v.isNumeric = false ∧ w.isNumeric = false ∧ Signals v w := by
  unfold equals
  split
  next h =>
    exact iff_of_false (not_fails_ok _) fun hsignals => not_signals_of_isAbsent h hsignals.2.2
  split
  next h =>
    exact iff_of_false (not_fails_ok _) fun hsignals => not_signals_of_isUnknown h hsignals.2.2
  split
  next h => exact iff_of_false (not_fails_ok _) (by rintro ⟨hv, hw, -⟩; simp [hv, hw] at h)
  next hnumeric =>
  split
  next h =>
    have hplain := (Bool.or_eq_true_iff.1 h).imp isPlain_of_isDate isPlain_of_isDate
    exact iff_of_false (not_fails_ok _) fun hsignals => not_signals hplain hsignals.2.2
  · obtain ⟨hv, hw⟩ := Bool.or_eq_false_iff.1 (Bool.not_eq_true _ ▸ hnumeric)
    rw [fails_equal]
    simp [hv, hw]

/-- The comparison that tells the types apart fails only for values of one type. -/
theorem fails_sameValue (v w : Value) :
    Fails (v.sameValue w) ↔ v.typeOf = w.typeOf ∧ Signals v w := by
  unfold sameValue
  split
  · exact iff_of_false (not_fails_ok _) fun h => not_signals_bool h.2
  next x hother =>
    exact iff_of_false (not_fails_ok _) fun h =>
      not_signals (.inr (isPlain_of_boolean h.1.symm hother)) h.2
  next x hother =>
    exact iff_of_false (not_fails_ok _) fun h =>
      not_signals (.inl (isPlain_of_boolean h.1 hother)) h.2
  · exact iff_of_false (not_fails_ok _) fun h => not_signals (.inl ⟨rfl, rfl⟩) h.2
  · exact iff_of_false (not_fails_ok _) fun h => not_signals (.inr ⟨rfl, rfl⟩) h.2
  · simp [fails_ite, fails_equal]

end RecordCalc.Value
