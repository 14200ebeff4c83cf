import Mathlib.Data.List.Basic
import RecordCalc.Operator.Rule

/-
  The flat list of values within arrays. It has no arrays of its own, so that flattening what is
  taken from it changes nothing (`flatten_of_subset`), and lists are flattened one after the other.
  The numbers of an aggregate are those of the flat list without what is absent or unknown
  (`numbers_present`).
-/

namespace RecordCalc.Value

theorem flatten_append (vs ws : List Value) : flatten (vs ++ ws) = flatten vs ++ flatten ws := by
  induction vs with
  | nil => rfl
  | cons v vs ih => rw [List.cons_append, flatten, flatten, ih, List.append_assoc]

mutual

theorem items?_of_mem_flat {v u : Value} (h : u ∈ v.flat) : u.items? = none := by
  cases v with
  | list vs => exact items?_of_mem_flatten h
  | tuple vs => exact items?_of_mem_flatten h
  | _ =>
    obtain rfl := List.mem_singleton.1 h
    rfl

/-- No value of a flat list is an array. -/
theorem items?_of_mem_flatten {vs : List Value} {u : Value} (h : u ∈ flatten vs) :
    u.items? = none := by
  match vs with
  | [] => cases h
  | v :: vs =>
    rcases List.mem_append.1 h with h | h
    · exact items?_of_mem_flat h
    · exact items?_of_mem_flatten h

end

theorem flat_of_items? {v : Value} (h : v.items? = none) : v.flat = [v] := by
  cases v <;> first | rfl | cases h

/-- Values that are no arrays are a flat list. -/
theorem flatten_of_items? {vs : List Value} (h : ∀ v ∈ vs, v.items? = none) : flatten vs = vs := by
  induction vs with
  | nil => rfl
  | cons v vs ih =>
    obtain ⟨hv, hvs⟩ := List.forall_mem_cons.1 h
    rw [flatten, flat_of_items? hv, ih hvs, List.singleton_append]

/-- What is taken from a flat list is flat. -/
theorem flatten_of_subset {vs ws : List Value} (h : ws ⊆ flatten vs) : flatten ws = ws :=
  flatten_of_items? fun _ hw => items?_of_mem_flatten (h hw)

/-! ## The numbers of an aggregate -/

/-- What is absent or unknown has no number. -/
theorem toNumber?_of_missing {v : Value} (h : (v.isAbsent true || v.isUnknown) = true) :
    v.toNumber? = none := by
  cases v with
  | text s =>
    obtain rfl : s = "" := by simpa [isAbsent, isUnknown] using h
    rfl
  | null | mark | unknown => rfl
  | _ => cases h

/-- To leave out what is absent or unknown changes no number. -/
theorem numbers_present (vs : List Value) :
    numbers ((flatten vs).filter fun v => !v.isAbsent true && !v.isUnknown) = numbers vs := by
  rw [numbers, numbers, flatten_of_subset List.filter_sublist.subset, List.filterMap_filter]
  refine List.filterMap_congr fun v _ => ?_
  rw [← Bool.not_or]
  cases hmissing : v.isAbsent true || v.isUnknown with
  | false => rfl
  | true =>
    have hnone := toNumber?_of_missing hmissing
    cases v <;> first | rfl | exact hnone.symm

end RecordCalc.Value
