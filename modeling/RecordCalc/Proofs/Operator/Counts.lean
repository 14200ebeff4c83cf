import RecordCalc.Proofs.Operator.Limits
import RecordCalc.Proofs.Value.Flat

/-
  The counts of aggregates. Every value of the flat list has just one part in an aggregate: it is
  missing, does not apply, is counted, or is left out, which for sums and means are the truth values
  and what does not convert to a number (`countP_parts`). So the counts of each tracked aggregate
  add up to the number of values, and its value is that of the plain aggregate (`counts_account`).
-/

namespace RecordCalc.Aggregates

open Value (flatten numbers)

/-- Whether a value is one of the two truth values. -/
def isTruthValue : Value → Bool
  | .bool _ => true
  | _ => false

/-- Whether a value that is no truth value is there and has no number. -/
def isNoNumber (v : Value) : Bool :=
  !(v.isAbsent true || v.isUnknown) && !isTruthValue v && v.toNumber?.isNone

/-- How many of the values are there and yet not in a sum. -/
def leftOut (vs : List Value) : Nat :=
  (flatten vs).countP isTruthValue + (flatten vs).countP isNoNumber

/-- The counts of an aggregate account for all of the values, `others` of them counted nowhere. -/
structure Accounts (vs : List Value) (a : Aggregate) (others : Nat) : Prop where
  total : countAll vs = .ok (.int a.total)
  applicable : a.applicable + a.inapplicable = a.total
  present_le : a.present ≤ a.applicable
  split : a.nulls + a.inapplicable + a.present + others = a.total

/-! ## Every value has one part -/

theorem length_present (vs : List Value) :
    (flatten vs).countP (!·.isAbsent true) + (flatten vs).countP (·.isAbsent true) =
      (flatten vs).length := by
  have hsum := Lists.sum_countP [(!·.isAbsent true), (·.isAbsent true)] (flatten vs) fun v _ => by
    cases hv : v.isAbsent true <;> simp [hv]
  simpa using hsum

theorem isMissing_of_isInapplicable {v : Value} (h : isInapplicable v = true) :
    isMissing v = false := by
  simp [isMissing, h]

theorem length_counted (vs : List Value) :
    (flatten vs).countP isMissing + (flatten vs).countP isInapplicable +
        (flatten vs).countP (fun v => !isMissing v && !isInapplicable v) =
      (flatten vs).length := by
  have hsum := Lists.sum_countP
    [isMissing, isInapplicable, fun v => !isMissing v && !isInapplicable v] (flatten vs)
    fun v _ => by
      cases hi : isInapplicable v with
      | true => simp [hi, isMissing_of_isInapplicable hi]
      | false => cases hm : isMissing v <;> simp [hm, hi]
  simpa [Nat.add_assoc] using hsum

/-- What is no array adds its number, unless it is a truth value. -/
theorem aggregated?_eq {v : Value} (h : v.items? = none) :
    v.aggregated? = if isTruthValue v then none else v.toNumber? := by
  cases v <;> first | rfl | cases h

theorem isTruthValue_of_missing {v : Value} (h : (v.isAbsent true || v.isUnknown) = true) :
    isTruthValue v = false := by
  cases v <;> first | rfl | cases h

/-- A value that is no array is missing, does not apply, adds a number, is a truth value or has no
number, and only one of these. -/
theorem countP_parts {v : Value} (h : v.items? = none) :
    [isMissing, isInapplicable, fun v => v.aggregated?.isSome, isTruthValue, isNoNumber].countP
      (· v) = 1 := by
  have hnumber := aggregated?_eq h
  cases hgone : v.isAbsent true || v.isUnknown with
  | true =>
    have hnone := Value.toNumber?_of_missing hgone
    have htruth := isTruthValue_of_missing hgone
    have hmissing : isMissing v = !isInapplicable v := by rw [isMissing, hgone, Bool.true_and]
    have hno : isNoNumber v = false := by rw [isNoNumber, hgone]; rfl
    cases hi : isInapplicable v <;> simp [hmissing, hno, hnumber, hnone, htruth, hi]
  | false =>
    obtain ⟨habsent, hunknown⟩ := Bool.or_eq_false_iff.1 hgone
    have hi : isInapplicable v = false := by
      cases v <;> first | rfl | cases habsent
    cases htruth : isTruthValue v with
    | true => simp [isMissing, isNoNumber, hnumber, htruth, hi, habsent, hunknown]
    | false =>
      cases hn : v.toNumber? <;>
        simp [isMissing, isNoNumber, hnumber, hn, htruth, hi, habsent, hunknown]

theorem length_summed (vs : List Value) :
    (flatten vs).countP isMissing + (flatten vs).countP isInapplicable + (numbers vs).length +
        leftOut vs =
      (flatten vs).length := by
  have hsum := Lists.sum_countP _ (flatten vs)
    fun v hv => countP_parts (Value.items?_of_mem_flatten hv)
  rw [numbers, List.length_filterMap_eq_countP, leftOut]
  simpa [Nat.add_assoc] using hsum

/-! ## The tracked aggregates -/

theorem eq_of_tracked {vs : List Value} {value : Option Number} {present : Nat} {w : Value}
    (h : tracked vs value present = .ok w) :
    ∃ certainty, w = .aggregate
      ⟨value, vs.length, (vs.filter isMissing).length, (vs.filter isInapplicable).length, present,
        vs.length - (vs.filter isInapplicable).length, certainty⟩ := by
  unfold tracked at h
  dsimp only at h
  split at h
  · cases h
    exact ⟨_, rfl⟩
  · obtain ⟨certainty, -, hw⟩ := Outcomes.bind_eq_ok_iff.1 h
    cases hw
    exact ⟨certainty, rfl⟩

/-- Where the values split into those missing, those that do not apply, those counted and others,
there is an aggregate, and its counts account for them. -/
theorem exists_tracked {vs : List Value} {present others : Nat}
    (h : (flatten vs).countP isMissing + (flatten vs).countP isInapplicable + present + others =
      (flatten vs).length) (value : Option Number) :
    ∃ a, tracked (flatten vs) value present = .ok (.aggregate a) ∧ a.value = value ∧
      a.present = present ∧ Accounts vs a others := by
  rw [List.countP_eq_length_filter, List.countP_eq_length_filter] at h
  have hle : present + ((flatten vs).filter isInapplicable).length ≤ (flatten vs).length := by
    omega
  obtain ⟨w, hw⟩ := not_fails_iff.1 (not_fails_tracked hle value)
  obtain ⟨certainty, rfl⟩ := eq_of_tracked hw
  refine ⟨_, hw, rfl, rfl, rfl, ?_, ?_, h⟩
  · dsimp only
    omega
  · dsimp only
    omega

theorem accounts_trackedCount (vs : List Value) :
    ∃ a, trackedCount vs = .ok (.aggregate a) ∧ Accounts vs a 0 := by
  have hsplit := length_counted vs
  rw [List.countP_eq_length_filter (p := fun v => !isMissing v && !isInapplicable v)] at hsplit
  obtain ⟨a, htracked, -, -, haccounts⟩ := @exists_tracked vs _ 0 hsplit
    (some (.int (countOf (fun v => !isMissing v && !isInapplicable v) vs)))
  exact ⟨a, htracked, haccounts⟩

/-- The sum that is tracked is the sum, or none of no numbers. -/
theorem sum?_eq {vs : List Value} {s : Value} (h : sum vs = .ok s) :
    ∃ value, sum? (numbers vs) = .ok value ∧
      (0 < (numbers vs).length → .ofNumber? value = s) ∧
      ((numbers vs).length = 0 → value = none) := by
  unfold sum?
  cases hns : numbers vs with
  | nil => exact ⟨none, rfl, fun h => absurd h (Nat.lt_irrefl 0), fun _ => rfl⟩
  | cons n ns =>
    rw [sum, hns] at h
    obtain ⟨total, htotal, rfl⟩ := Outcomes.map_eq_ok_iff.1 h
    exact ⟨some total, by rw [htotal]; rfl, fun _ => rfl,
      fun h => absurd h (Nat.succ_ne_zero _)⟩

theorem accounts_trackedSum {vs : List Value} {s : Value} (h : sum vs = .ok s) :
    ∃ a, trackedSum vs = .ok (.aggregate a) ∧ Accounts vs a (leftOut vs) ∧
      (0 < a.present → .ofNumber? a.value = s) ∧ (a.present = 0 → a.value = none) := by
  obtain ⟨value, hvalue, hsome, hnone⟩ := sum?_eq h
  obtain ⟨a, htracked, rfl, hpresent, haccounts⟩ := exists_tracked (length_summed vs) value
  refine ⟨a, ?_, haccounts, hpresent ▸ hsome, hpresent ▸ hnone⟩
  rw [trackedSum, hvalue]
  exact htracked

theorem accounts_trackedMean {vs : List Value} {m : Value} (h : average vs = .ok m) :
    ∃ a, trackedMean vs = .ok (.aggregate a) ∧ Accounts vs a (leftOut vs) ∧
      .ofNumber? a.value = m := by
  obtain ⟨value, hvalue, rfl⟩ := Outcomes.map_eq_ok_iff.1 h
  obtain ⟨a, htracked, rfl, -, haccounts⟩ := exists_tracked (length_summed vs) value
  refine ⟨a, ?_, haccounts, rfl⟩
  rw [trackedMean, hvalue]
  exact htracked

theorem fails_trackedSum_iff (vs : List Value) : Fails (trackedSum vs) ↔ Fails (sum vs) :=
  (fails_trackedSum vs).trans (fails_sum vs).symm

theorem fails_trackedMean_iff (vs : List Value) : Fails (trackedMean vs) ↔ Fails (average vs) :=
  (fails_trackedMean vs).trans (fails_average vs).symm

/-- The aggregates account for every value. The values present and those absent are all values; the
counts of the tracked aggregates add up to them, but for what a sum leaves out; and the tracked sum
and mean are the plain ones, or none where no number is present. -/
theorem counts_account (vs : List Value) :
    (∃ present absent : Nat, countPresent vs = .ok (.int present) ∧
        countAbsent vs = .ok (.int absent) ∧ countAll vs = .ok (.int (present + absent))) ∧
      (∃ a, trackedCount vs = .ok (.aggregate a) ∧ Accounts vs a 0) ∧
      (∀ s, sum vs = .ok s → ∃ a, trackedSum vs = .ok (.aggregate a) ∧
        Accounts vs a (leftOut vs) ∧ (0 < a.present → .ofNumber? a.value = s) ∧
        (a.present = 0 → a.value = none)) ∧
      (∀ m, average vs = .ok m → ∃ a, trackedMean vs = .ok (.aggregate a) ∧
        Accounts vs a (leftOut vs) ∧ .ofNumber? a.value = m) ∧
      (Fails (trackedSum vs) ↔ Fails (sum vs)) ∧ (Fails (trackedMean vs) ↔ Fails (average vs)) := by
  refine ⟨⟨countOf (!·.isAbsent true) vs, countOf (·.isAbsent true) vs, rfl, rfl, ?_⟩,
    accounts_trackedCount vs, fun _ => accounts_trackedSum, fun _ => accounts_trackedMean,
    fails_trackedSum_iff vs, fails_trackedMean_iff vs⟩
  have hlength := length_present vs
  rw [List.countP_eq_length_filter, List.countP_eq_length_filter] at hlength
  rw [countAll, ← hlength, Int.natCast_add]
  rfl

/-- Of eight values in arrays one is a truth value and one a text that is no number; the others are
missing, do not apply or are the numbers of the sum. -/
theorem counts_account_nested :
    let vs : List Value := [.list [.int 5, .tuple [.mark .inapplicable "", .unknown]], .text "",
      .text " 7 ", .bool true, .list [.text "x", .null]]
    sum vs = .ok (.int 12) ∧ countAll vs = .ok (.int 8) ∧
      (∃ a, trackedSum vs = .ok (.aggregate a) ∧ Accounts vs a 2 ∧
        (0 < a.present → Value.ofNumber? a.value = .int 12) ∧ (a.present = 0 → a.value = none)) ∧
      ∃ m, average vs = .ok m ∧ ∃ a, trackedMean vs = .ok (.aggregate a) ∧ Accounts vs a 2 ∧
        Value.ofNumber? a.value = m := by
  intro vs
  have hsum : sum vs = .ok (.int 12) := rfl
  have hnumbers : numbers vs = [.int 5, .int 7] := rfl
  obtain ⟨m, hmean⟩ : ∃ m, average vs = .ok m := by
    rw [average, hnumbers]
    exact ⟨_, rfl⟩
  have hleft : leftOut vs = 2 := by decide +kernel
  have haccount := counts_account vs
  rw [hleft] at haccount
  exact ⟨hsum, rfl, haccount.2.2.1 _ hsum, m, hmean, haccount.2.2.2.1 m hmean⟩

end RecordCalc.Aggregates
