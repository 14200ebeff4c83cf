import Mathlib.Algebra.Ring.Int.Defs
import RecordCalc.Operator.Aggregates
import RecordCalc.Proofs.Lists
import RecordCalc.Proofs.Value.Flat

/-
  Sums and extremes of integers. Where every value is an integer, reads as one or is no number, the
  sum, the minimum and the maximum are those of the list of these integers (`sum_eq`,
  `extreme_eq`), so that they can be computed in parts and do not depend on the order of the values
  or on the arrays that they stand in (`aggregates_in_parts`).
-/

namespace RecordCalc

namespace Value

/-- The integer that a value adds to a sum: itself, or the one that a text reads as. -/
def summand? : Value → Option Int
  | number (.int n) => some n
  | text s =>
    match (text s).toNumber? with
    | some (.int n) => some n
    | _ => none
  | _ => none

/-- The integers among the flattened values. -/
def summands (vs : List Value) : List Int := (flatten vs).filterMap summand?

/-- The value is an integer, reads as an integer or is no number, a truth value included. -/
inductive IsIntegerOrNone : Value → Prop
  | null : IsIntegerOrNone null
  | mark (kind : MarkKind) (reason : String) : IsIntegerOrNone (mark kind reason)
  | unknown : IsIntegerOrNone unknown
  | bool (b : Bool) : IsIntegerOrNone (bool b)
  | int (n : Int) : IsIntegerOrNone (int n)
  | numeral {s : String} {n : Int} : (text s).toNumber? = some (.int n) → IsIntegerOrNone (text s)
  | word {s : String} : (text s).toNumber? = none → IsIntegerOrNone (text s)

theorem IsIntegerOrNone.aggregated?_eq {v : Value} (h : v.IsIntegerOrNone) :
    v.aggregated? = v.summand?.map .int := by
  cases h with
  | numeral h => simp [aggregated?, summand?, h]
  | word h => simp [aggregated?, summand?, h]
  | _ => rfl

/-- The numbers that are added are the integers. -/
theorem numbers_eq {vs : List Value} (h : ∀ v ∈ flatten vs, v.IsIntegerOrNone) :
    numbers vs = (summands vs).map .int := by
  rw [numbers, summands, List.map_filterMap]
  exact List.filterMap_congr fun v hv => (h v hv).aggregated?_eq

theorem summands_append (vs ws : List Value) :
    summands (vs ++ ws) = summands vs ++ summands ws := by
  rw [summands, flatten_append, List.filterMap_append]
  rfl

/-- An integer as a value, nothing for none. -/
def ofInteger? (n : Option Int) : Value := ofNumber? (n.map .int)

theorem isIntegerOrNone_ofInteger? (n : Option Int) : (ofInteger? n).IsIntegerOrNone := by
  cases n with
  | none => exact .null
  | some n => exact .int n

theorem flatten_ofInteger? (m n : Option Int) :
    flatten [ofInteger? m, ofInteger? n] = [ofInteger? m, ofInteger? n] := by
  cases m <;> cases n <;> rfl

theorem summands_ofInteger? (m n : Option Int) :
    summands [ofInteger? m, ofInteger? n] = m.toList ++ n.toList := by
  cases m <;> cases n <;> rfl

end Value

/-! ## Integers put together -/

namespace Aggregates

/-- A result of integers that can be computed from the results of parts, in any order. -/
structure Combines (result : List Int → Option Int) : Prop where
  append (ms ns : List Int) : result (ms ++ ns) = result ((result ms).toList ++ (result ns).toList)
  perm {ms ns : List Int} : ms.Perm ns → result ms = result ns

/-- The integers put together by an operation, none of no integers. -/
def reduce? (op : Int → Int → Int) : List Int → Option Int
  | [] => none
  | n :: ns => some (ns.foldl op n)

theorem reduce?_min : reduce? min = List.min? := by
  funext ns
  cases ns <;> rfl

theorem reduce?_max : reduce? max = List.max? := by
  funext ns
  cases ns <;> rfl

section
variable {op : Int → Int → Int} [Std.Associative op]

theorem reduce?_cons (n : Int) (ns : List Int) :
    reduce? op (n :: ns) = some ((reduce? op ns).elim n (op n)) := by
  cases ns with
  | nil => rfl
  | cons m ns => simp [reduce?, List.foldl_assoc]

theorem reduce?_append (ms ns : List Int) :
    reduce? op (ms ++ ns) = reduce? op ((reduce? op ms).toList ++ (reduce? op ns).toList) := by
  cases ms with
  | nil => cases ns <;> rfl
  | cons m ms =>
    cases ns with
    | nil => simp [reduce?]
    | cons n ns => simp [reduce?, List.foldl_assoc]

theorem combines_reduce? [Std.Commutative op] : Combines (reduce? op) where
  append := reduce?_append
  perm h := by
    induction h with
    | nil => rfl
    | cons n h ih => rw [reduce?_cons, reduce?_cons, ih]
    | swap m n ns =>
      simp only [reduce?, List.foldl_cons]
      rw [(Std.Commutative.comm n m : op n m = op m n)]
    | trans h h' ih ih' => exact ih.trans ih'

end

theorem combines_sum : Combines (fun ns => some ns.sum) where
  append ms ns := by simp
  perm h := congrArg some h.sum_eq

/-! ## Aggregates of integers -/

theorem foldlM_add (n : Int) (ns : List Int) :
    (ns.map Number.int).foldlM Number.add (.int n) = .ok (.int (n + ns.sum)) := by
  induction ns generalizing n with
  | nil => simp [pure, Except.pure]
  | cons m ns ih =>
    rw [List.map_cons, List.foldlM_cons, List.sum_cons, ← Int.add_assoc]
    exact ih (n + m)

variable {vs : List Value}

theorem sum_eq (h : ∀ v ∈ Value.flatten vs, v.IsIntegerOrNone) :
    sum vs = .ok (.int (Value.summands vs).sum) := by
  have hsum := foldlM_add 0 (Value.summands vs)
  rw [Int.zero_add] at hsum
  rw [sum, Value.numbers_eq h, Number.sum, hsum]
  rfl

/-- The pick of integers by their order is the operation that keeps the picked one of two. -/
theorem pickBy_int {beats : Ordering} {op : Int → Int → Int}
    (h : ∀ m n : Int, (if compare n m = beats then n else m) = op m n) (ns : List Int) :
    pickBy id beats (ns.map .int) = (reduce? op ns).map .int := by
  cases ns with
  | nil => rfl
  | cons n ns =>
    have hfold : ∀ n, (ns.map Number.int).foldl
        (fun best b => if b.compare best = beats then b else best) (.int n) =
          .int (ns.foldl op n) := by
      induction ns with
      | nil => exact fun n => rfl
      | cons m ns ih =>
        intro n
        rw [List.map_cons, List.foldl_cons, List.foldl_cons, ← ih, ← h]
        congr 1
        exact (apply_ite Number.int _ _ _).symm
    exact congrArg some (hfold n)

theorem isDate_of_isIntegerOrNone {v : Value} (h : v.IsIntegerOrNone) : v.isDate = false := by
  cases h <;> rfl

/-- Of integers the extreme is the pick of them. -/
theorem extreme_eq (hvs : ∀ v ∈ Value.flatten vs, v.IsIntegerOrNone) {beats : Ordering}
    {op : Int → Int → Int} (h : ∀ m n : Int, (if compare n m = beats then n else m) = op m n) :
    extreme beats vs = .ok (Value.ofInteger? (reduce? op (Value.summands vs))) := by
  have hnumbers := Value.numbers_present vs
  rw [Value.numbers_eq hvs] at hnumbers
  unfold extreme
  dsimp only
  split
  next hdates =>
    -- Where all that is there are dates nothing is there, since no integer is a date.
    have hnone := Lists.filter_eq_nil_of_all
      (fun v hv => isDate_of_isIntegerOrNone (hvs v hv)) hdates
    rw [hnone] at hnumbers ⊢
    have hempty : Value.summands vs = [] := List.map_eq_nil_iff.1 hnumbers.symm
    rw [hempty]
    rfl
  · rw [hnumbers, pickBy_int h]
    rfl

theorem lesser_eq_min (m n : Int) : (if compare n m = .lt then n else m) = min m n := by
  simp only [Int.compare_eq_lt]
  omega

theorem greater_eq_max (m n : Int) : (if compare n m = .gt then n else m) = max m n := by
  simp only [Int.compare_eq_gt]
  omega

theorem minimum_eq (hvs : ∀ v ∈ Value.flatten vs, v.IsIntegerOrNone) :
    minimum vs = .ok (Value.ofInteger? (Value.summands vs).min?) := by
  rw [minimum, extreme_eq hvs lesser_eq_min, reduce?_min]

theorem maximum_eq (hvs : ∀ v ∈ Value.flatten vs, v.IsIntegerOrNone) :
    maximum vs = .ok (Value.ofInteger? (Value.summands vs).max?) := by
  rw [maximum, extreme_eq hvs greater_eq_max, reduce?_max]

/-! ## Aggregates in parts -/

/-- The sum and both extremes come to a result of the integers that can be combined. -/
theorem exists_combines {aggregate : List Value → Except Fault Value}
    (h : aggregate ∈ [sum, minimum, maximum]) :
    ∃ result, Combines result ∧ ∀ vs, (∀ v ∈ Value.flatten vs, v.IsIntegerOrNone) →
      aggregate vs = .ok (Value.ofInteger? (result (Value.summands vs))) := by
  simp only [List.mem_cons, List.not_mem_nil, or_false] at h
  rcases h with rfl | rfl | rfl
  · exact ⟨_, combines_sum, fun _ => sum_eq⟩
  · exact ⟨List.min?, reduce?_min ▸ combines_reduce?, fun _ => minimum_eq⟩
  · exact ⟨List.max?, reduce?_max ▸ combines_reduce?, fun _ => maximum_eq⟩

section
variable {result : List Int → Option Int} {aggregate : List Value → Except Fault Value}
  {vs ws : List Value}

/-- A result that can be combined is that of the results of the parts. -/
theorem Combines.in_parts (hresult : Combines result)
    (h : ∀ vs, (∀ v ∈ Value.flatten vs, v.IsIntegerOrNone) →
      aggregate vs = .ok (Value.ofInteger? (result (Value.summands vs))))
    (hvs : ∀ v ∈ Value.flatten vs, v.IsIntegerOrNone)
    (hws : ∀ v ∈ Value.flatten ws, v.IsIntegerOrNone) :
    ∃ a b c, aggregate vs = .ok a ∧ aggregate ws = .ok b ∧ aggregate [a, b] = .ok c ∧
      aggregate (vs ++ ws) = .ok c := by
  have hboth : ∀ v ∈ Value.flatten (vs ++ ws), v.IsIntegerOrNone := by
    rw [Value.flatten_append]
    exact List.forall_mem_append.2 ⟨hvs, hws⟩
  refine ⟨_, _, _, h vs hvs, h ws hws, h _ ?_, ?_⟩
  · rw [Value.flatten_ofInteger?]
    simp [Value.isIntegerOrNone_ofInteger?]
  · rw [h _ hboth, Value.summands_append, Value.summands_ofInteger?, hresult.append]

end

/-- Where all values are integers, read as integers or are no numbers, the sum, the minimum and the
maximum are those of the results of two parts, and neither the order of the values nor the arrays
that they stand in matter. The extremes are those of the integers that the sum adds. -/
theorem aggregates_in_parts {vs ws : List Value}
    (hvs : ∀ v ∈ Value.flatten vs, v.IsIntegerOrNone)
    (hws : ∀ v ∈ Value.flatten ws, v.IsIntegerOrNone) :
    (∀ aggregate ∈ [sum, minimum, maximum],
        (∃ a b c, aggregate vs = .ok a ∧ aggregate ws = .ok b ∧ aggregate [a, b] = .ok c ∧
          aggregate (vs ++ ws) = .ok c) ∧
        ((Value.flatten vs).Perm (Value.flatten ws) → aggregate vs = aggregate ws)) ∧
      Value.numbers vs = (Value.summands vs).map .int ∧
      sum vs = .ok (.int (Value.summands vs).sum) ∧
      minimum vs = .ok (Value.ofInteger? (Value.summands vs).min?) ∧
      maximum vs = .ok (Value.ofInteger? (Value.summands vs).max?) := by
  refine ⟨fun aggregate hmem => ?_, Value.numbers_eq hvs, sum_eq hvs, minimum_eq hvs,
    maximum_eq hvs⟩
  obtain ⟨result, hresult, h⟩ := exists_combines hmem
  refine ⟨hresult.in_parts h hvs hws, fun hperm => ?_⟩
  rw [h vs hvs, h ws hws]
  exact congrArg (Except.ok ∘ Value.ofInteger?) (hresult.perm (hperm.filterMap _))

/-- The same three values, in other arrays and in another order. -/
theorem aggregates_in_parts_regrouped :
    let vs : List Value := [.list [.int 3, .text "x"], .text " 1,000"]
    let ws : List Value := [.text " 1,000", .tuple [.list [], .int 3], .text "x"]
    (∀ v ∈ Value.flatten vs, v.IsIntegerOrNone) ∧ (∀ v ∈ Value.flatten ws, v.IsIntegerOrNone) ∧
      (Value.flatten vs).Perm (Value.flatten ws) ∧ minimum vs = minimum ws ∧
      sum vs = .ok (.int 1003) ∧ sum ws = .ok (.int 1003) ∧ sum (vs ++ ws) = .ok (.int 2006) := by
  intro vs ws
  have hperm : (Value.flatten vs).Perm (Value.flatten ws) := by
    change ([Value.int 3, .text "x"] ++ [Value.text " 1,000"]).Perm
      ([Value.text " 1,000"] ++ [Value.int 3, .text "x"])
    exact List.perm_append_comm
  have hvs : ∀ v ∈ Value.flatten vs, v.IsIntegerOrNone := by
    change ∀ v ∈ [Value.int 3, .text "x", .text " 1,000"], v.IsIntegerOrNone
    simp only [List.forall_mem_cons, List.not_mem_nil, false_implies, implies_true, and_true]
    exact ⟨.int 3, .word rfl, .numeral (n := 1000) rfl⟩
  have hws : ∀ v ∈ Value.flatten ws, v.IsIntegerOrNone := fun v hv => hvs v (hperm.mem_iff.2 hv)
  have hsum : sum vs = .ok (.int 1003) := rfl
  obtain ⟨hparts, -⟩ := aggregates_in_parts hvs hws
  obtain ⟨⟨a, b, c, ha, hb, hc, happend⟩, hregrouped⟩ := hparts sum (by simp)
  have hsum' : sum ws = .ok (.int 1003) := (hregrouped hperm).symm.trans hsum
  obtain rfl : Value.int 1003 = a := Except.ok.inj (hsum.symm.trans ha)
  obtain rfl : Value.int 1003 = b := Except.ok.inj (hsum'.symm.trans hb)
  exact ⟨hvs, hws, hperm, (hparts minimum (by simp)).2 hperm, hsum, hsum', happend.trans hc.symm⟩

end Aggregates

end RecordCalc
