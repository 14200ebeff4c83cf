import Mathlib.Order.Bounds.Defs
import RecordCalc.Text.Search

/-
  Occurrences in a text. What stands at a place is a prefix of what is left there (`OccursAt`), and
  the search finds the first such place at or after its start (`isLeast_of_find?`), or there is none
  (`not_occursAt_of_find?`). A text falls apart into the slices before, at and after a place
  (`take_append_slice_append_slice`).
-/

namespace RecordCalc.Text

variable {needle text cs : List Char} {c : Char} {start place i q : Nat}

/-! ## Slices -/

theorem take_append_takeRight (h : i ≤ cs.length) :
    cs.take i ++ takeRight cs (cs.length - i) = cs := by
  have hplace : cs.length - (cs.length - i) = i := by omega
  rw [takeRight, hplace, List.take_append_drop]

/-- A slice as long as the text reaches its end. -/
theorem slice_length (cs : List Char) (start : Nat) : slice cs start cs.length = cs.drop start :=
  List.take_of_length_le (List.length_drop ▸ Nat.sub_le _ _)

theorem take_append_slice_append_slice (cs : List Char) (start count : Nat) :
    cs.take start ++ slice cs start count ++ slice cs (start + count) cs.length = cs := by
  rw [slice_length, slice, List.append_assoc, ← List.drop_drop, List.take_append_drop,
    List.take_append_drop]

/-! ## Places of an occurrence -/

/-- The needle stands at a place of the text, counted from zero. -/
def OccursAt (needle text : List Char) (i : Nat) : Prop := i ≤ text.length ∧ needle <+: text.drop i

theorem occursAt_nil_iff : OccursAt needle [] i ↔ i = 0 ∧ needle = [] := by
  simp [OccursAt]

theorem occursAt_zero_iff : OccursAt needle cs 0 ↔ needle <+: cs := by
  simp [OccursAt]

@[simp] theorem occursAt_succ_iff : OccursAt needle (c :: cs) (i + 1) ↔ OccursAt needle cs i := by
  simp [OccursAt]

/-- What stands at a place is the slice there, and the slice is within the text. -/
theorem occursAt_iff_slice :
    OccursAt needle text i ↔
      i + needle.length ≤ text.length ∧ slice text i needle.length = needle := by
  have hprefix : needle <+: text.drop i ↔ slice text i needle.length = needle :=
    List.prefix_iff_eq_take.trans eq_comm
  unfold OccursAt
  rw [← hprefix]
  refine and_congr_left fun h => ?_
  have hlength := h.length_le
  rw [List.length_drop] at hlength
  omega

theorem occursAt_drop_iff (h : start ≤ text.length) :
    OccursAt needle (text.drop start) i ↔ OccursAt needle text (start + i) := by
  unfold OccursAt
  rw [List.length_drop, List.drop_drop]
  exact and_congr_left fun _ => by omega

/-! ## The first occurrence -/

theorem isLeast_of_findFrom (h : findFrom needle place cs = some q) :
    ∃ i, q = place + i ∧ IsLeast {i | OccursAt needle cs i} i := by
  -- A step takes one character off, and moves every place that is left by one.
  induction cs generalizing place with
  | nil =>
    obtain ⟨hnil, hplace⟩ := Option.ite_none_right_eq_some.1 h
    obtain rfl := Option.some.inj hplace
    exact ⟨0, rfl, occursAt_nil_iff.2 ⟨rfl, List.isEmpty_iff.1 hnil⟩, fun _ _ => Nat.zero_le _⟩
  | cons c cs ih =>
    rw [findFrom] at h
    split at h
    next hprefix =>
      obtain rfl := Option.some.inj h
      exact ⟨0, rfl, occursAt_zero_iff.2 (List.isPrefixOf_iff_prefix.1 hprefix),
        fun _ _ => Nat.zero_le _⟩
    next hprefix =>
      obtain ⟨i, rfl, hi, hleast⟩ := ih h
      refine ⟨i + 1, by omega, occursAt_succ_iff.2 hi, fun j hj => ?_⟩
      cases j with
      | zero => exact absurd (List.isPrefixOf_iff_prefix.2 (occursAt_zero_iff.1 hj)) hprefix
      | succ j => exact Nat.succ_le_succ (hleast (occursAt_succ_iff.1 hj))

theorem not_occursAt_of_findFrom (h : findFrom needle place cs = none) (i : Nat) :
    ¬ OccursAt needle cs i := by
  induction cs generalizing place i with
  | nil =>
    intro hi
    rw [findFrom, if_pos (List.isEmpty_iff.2 (occursAt_nil_iff.1 hi).2)] at h
    cases h
  | cons c cs ih =>
    rw [findFrom] at h
    split at h
    next => cases h
    next hprefix =>
      cases i with
      | zero => exact mt (fun hi => List.isPrefixOf_iff_prefix.2 (occursAt_zero_iff.1 hi)) hprefix
      | succ i => exact mt occursAt_succ_iff.1 (ih h i)

/-- The search finds the first place at or after its start. -/
theorem isLeast_of_find? (h : find? needle text start = some q) :
    IsLeast {i | start ≤ i ∧ OccursAt needle text i} q := by
  obtain ⟨hstart, h⟩ := Option.ite_none_right_eq_some.1 h
  obtain ⟨i, rfl, hi, hleast⟩ := isLeast_of_findFrom h
  refine ⟨⟨Nat.le_add_right _ _, (occursAt_drop_iff hstart).1 hi⟩, ?_⟩
  rintro j ⟨hj, hoccurs⟩
  obtain ⟨k, rfl⟩ := Nat.exists_eq_add_of_le hj
  exact Nat.add_le_add_left (hleast ((occursAt_drop_iff hstart).2 hoccurs)) start

/-- Where it finds none, there is none. -/
theorem not_occursAt_of_find? (h : find? needle text start = none) (hi : start ≤ i) :
    ¬ OccursAt needle text i := by
  intro hoccurs
  have hstart : start ≤ text.length := Nat.le_trans hi hoccurs.1
  rw [find?, if_pos hstart] at h
  obtain ⟨k, rfl⟩ := Nat.exists_eq_add_of_le hi
  exact not_occursAt_of_findFrom h k ((occursAt_drop_iff hstart).2 hoccurs)

end RecordCalc.Text
