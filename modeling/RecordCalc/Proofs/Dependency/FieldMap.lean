import Mathlib.Data.List.Basic
import Mathlib.Data.List.Nodup
import RecordCalc.Dependency.Graph

/-
  What the operations on lists by field do, seen through `get`. `get_set`, `get_erase`, `get_insert`
  and `get_remove` give the list of every field after one operation, `mem_get_insertAll` and
  `mem_get_removeAll` after the loops that link and unlink a formula field; `find?_set` gives the
  entry of every field after its list is set. No operation leaves an empty list behind (`NoEmpty`)
  or puts a field twice into a list (`Distinct`). `values` are the fields of all lists, as many as
  `total` counts.
-/

namespace RecordCalc.Dependency.FieldMap

variable {m : FieldMap} {x y field name : String}

/-! ## One operation -/

@[simp] theorem get_nil (x : String) : get [] x = [] := rfl

theorem get_cons (e : String × List String) (m : FieldMap) (x : String) :
    get (e :: m) x = if e.1 = x then e.2 else get m x := by
  by_cases h : e.1 = x <;> simp [get, h]

theorem find?_cons (e : String × List String) (m : FieldMap) (x : String) :
    (e :: m).find? (·.1 == x) = if e.1 = x then some e else m.find? (·.1 == x) := by
  by_cases h : e.1 = x <;> simp [h]

theorem find?_eq_none_of_not_any (h : m.any (·.1 == field) = false) :
    m.find? (·.1 == field) = none :=
  List.find?_eq_none.2 (List.any_eq_false.1 h)

theorem find?_replace (m : FieldMap) (field : String) (fields : List String) (x : String) :
    (m.map fun e => if e.1 == field then (field, fields) else e).find? (·.1 == x) =
      if x = field ∧ m.any (·.1 == field) then some (field, fields)
      else m.find? (·.1 == x) := by
  induction m with
  | nil => simp
  | cons e m ih =>
    rw [List.map_cons, find?_cons, find?_cons, ih, List.any_cons]
    by_cases he : e.1 = field
    · subst he
      by_cases hx : x = e.1
      · simp [hx]
      · simp [hx, Ne.symm hx]
    · rw [beq_eq_false_iff_ne.2 he, Bool.false_or]
      by_cases hx : x = field
      · subst hx
        simp only [Bool.false_eq_true, if_false, if_neg he]
      · simp [hx]

/-- Setting the list of a field changes the entry of the field alone. -/
theorem find?_set (m : FieldMap) (field : String) (fields : List String) (x : String) :
    (m.set field fields).find? (·.1 == x) =
      if x = field then some (field, fields) else m.find? (·.1 == x) := by
  unfold set
  split
  · rename_i hany
    rw [find?_replace]
    simp [hany]
  · rename_i hany
    rw [List.find?_append, find?_cons, List.find?_nil]
    by_cases hx : x = field
    · subst hx
      rw [find?_eq_none_of_not_any (Bool.eq_false_iff.2 hany)]
      simp
    · simp [hx, Ne.symm hx]

theorem get_eq_nil_of_not_any (h : m.any (·.1 == field) = false) : m.get field = [] := by
  rw [get, find?_eq_none_of_not_any h]
  rfl

theorem get_set (m : FieldMap) (field : String) (fields : List String) (x : String) :
    (m.set field fields).get x = if x = field then fields else m.get x := by
  unfold get
  rw [find?_set]
  split <;> rfl

theorem get_erase (m : FieldMap) (field x : String) :
    (m.erase field).get x = if x = field then [] else m.get x := by
  unfold erase
  induction m with
  | nil => simp
  | cons e m ih =>
    rw [List.filter_cons, get_cons]
    by_cases he : e.1 = field
    · subst he
      rw [if_neg (by simp), ih]
      by_cases hx : x = e.1
      · simp [hx]
      · simp [hx, Ne.symm hx]
    · rw [if_pos (by simp [he]), get_cons, ih]
      by_cases hx : x = field
      · subst hx
        simp [he]
      · simp [hx]

theorem get_insert (m : FieldMap) (field name x : String) :
    (m.insert field name).get x =
      if x = field then
        (if name ∈ m.get field then m.get field else m.get field ++ [name])
      else m.get x := by
  unfold insert
  rw [get_set]
  simp

theorem get_remove (m : FieldMap) (field name x : String) :
    (m.remove field name).get x =
      if x = field then (m.get field).filter (· != name) else m.get x := by
  unfold remove
  split
  · split
    · rename_i hnil
      rw [get_erase, hnil]
    · rw [get_set]
  · rename_i hany
    by_cases hx : x = field
    · subst hx
      simp [get_eq_nil_of_not_any (Bool.eq_false_iff.2 hany)]
    · simp [hx]

theorem mem_get_insert {z : String} :
    z ∈ (m.insert field name).get x ↔ z ∈ m.get x ∨ (x = field ∧ z = name) := by
  rw [get_insert]
  by_cases hx : x = field
  · subst hx
    by_cases hn : name ∈ m.get x
    · simp only [if_true, if_pos hn]
      refine ⟨Or.inl, ?_⟩
      rintro (h | ⟨-, rfl⟩)
      · exact h
      · exact hn
    · simp [hn]
  · simp [hx]

theorem mem_get_remove {z : String} :
    z ∈ (m.remove field name).get x ↔ z ∈ m.get x ∧ ¬ (x = field ∧ z = name) := by
  rw [get_remove]
  by_cases hx : x = field
  · subst hx
    simp
  · simp [hx]

/-! ## Loops over the inputs of a formula field -/

theorem mem_get_insertAll {inputs : List String} {z : String} :
    z ∈ (inputs.foldl (·.insert · field) m).get x ↔ z ∈ m.get x ∨ (x ∈ inputs ∧ z = field) := by
  induction inputs generalizing m with
  | nil => simp
  | cons i inputs ih =>
    rw [List.foldl_cons, ih, mem_get_insert, List.mem_cons]
    tauto

theorem mem_get_removeAll {inputs : List String} {z : String} :
    z ∈ (inputs.foldl (·.remove · field) m).get x ↔ z ∈ m.get x ∧ ¬ (x ∈ inputs ∧ z = field) := by
  induction inputs generalizing m with
  | nil => simp
  | cons i inputs ih =>
    rw [List.foldl_cons, ih, mem_get_remove, List.mem_cons]
    tauto

/-! ## No empty lists -/

/-- No field has an empty list. -/
def NoEmpty (m : FieldMap) : Prop := ∀ e ∈ m, e.2 ≠ []

theorem noEmpty_nil : NoEmpty [] := fun _ h => absurd h List.not_mem_nil

theorem NoEmpty.set (h : NoEmpty m) {fields : List String} (hf : fields ≠ []) :
    NoEmpty (m.set field fields) := by
  unfold FieldMap.set
  intro e he
  split at he
  · obtain ⟨e', he', rfl⟩ := List.mem_map.1 he
    split
    · exact hf
    · exact h e' he'
  · rcases List.mem_append.1 he with he | he
    · exact h e he
    · rw [List.mem_singleton.1 he]
      exact hf

theorem NoEmpty.erase (h : NoEmpty m) (field : String) : NoEmpty (m.erase field) :=
  fun e he => h e (List.mem_of_mem_filter he)

theorem NoEmpty.insert (h : NoEmpty m) (field name : String) : NoEmpty (m.insert field name) := by
  unfold FieldMap.insert
  refine h.set ?_
  split
  · rename_i hc
    exact List.ne_nil_of_mem (List.contains_iff_mem.1 hc)
  · simp

theorem NoEmpty.remove (h : NoEmpty m) (field name : String) : NoEmpty (m.remove field name) := by
  unfold FieldMap.remove
  split
  · split
    · exact h.erase field
    · rename_i hne
      exact h.set hne
  · exact h

theorem NoEmpty.insertAll (h : NoEmpty m) (field : String) (inputs : List String) :
    NoEmpty (inputs.foldl (·.insert · field) m) := by
  induction inputs generalizing m with
  | nil => exact h
  | cons i inputs ih => exact ih (h.insert i field)

theorem NoEmpty.removeAll (h : NoEmpty m) (field : String) (inputs : List String) :
    NoEmpty (inputs.foldl (·.remove · field) m) := by
  induction inputs generalizing m with
  | nil => exact h
  | cons i inputs ih => exact ih (h.remove i field)

/-! ## No repeated fields -/

/-- No list has a field twice. -/
def Distinct (m : FieldMap) : Prop := ∀ x, (m.get x).Nodup

theorem distinct_nil : Distinct [] := fun _ => List.nodup_nil

theorem Distinct.set (h : Distinct m) (field : String) {fields : List String}
    (hf : fields.Nodup) : Distinct (m.set field fields) := by
  intro x
  rw [get_set]
  split
  · exact hf
  · exact h x

theorem Distinct.erase (h : Distinct m) (field : String) : Distinct (m.erase field) := by
  intro x
  rw [get_erase]
  split
  · exact List.nodup_nil
  · exact h x

theorem Distinct.insert (h : Distinct m) (field name : String) :
    Distinct (m.insert field name) := by
  intro x
  rw [get_insert]
  split
  · split
    · exact h field
    · rename_i hn
      exact (h field).append (List.nodup_singleton name) (by simpa using hn)
  · exact h x

theorem Distinct.remove (h : Distinct m) (field name : String) :
    Distinct (m.remove field name) := by
  intro x
  rw [get_remove]
  split
  · exact (h field).filter _
  · exact h x

theorem Distinct.insertAll (h : Distinct m) (field : String) (inputs : List String) :
    Distinct (inputs.foldl (·.insert · field) m) := by
  induction inputs generalizing m with
  | nil => exact h
  | cons i inputs ih => exact ih (h.insert i field)

theorem Distinct.removeAll (h : Distinct m) (field : String) (inputs : List String) :
    Distinct (inputs.foldl (·.remove · field) m) := by
  induction inputs generalizing m with
  | nil => exact h
  | cons i inputs ih => exact ih (h.remove i field)

/-! ## All fields of all lists -/

/-- The fields of all lists. -/
def values (m : FieldMap) : List String := m.flatMap (·.2)

theorem length_values (m : FieldMap) : m.values.length = m.total := by
  simp only [values, total, List.length_flatMap, List.sum_eq_foldl]

theorem mem_values_of_mem_get (h : y ∈ m.get x) : y ∈ m.values := by
  induction m with
  | nil => simp at h
  | cons e m ih =>
    rw [get_cons] at h
    rw [values, List.flatMap_cons, List.mem_append]
    split at h
    · exact Or.inl h
    · exact Or.inr (ih h)

end RecordCalc.Dependency.FieldMap
