import Mathlib.Data.List.Induction
import RecordCalc.Proofs.Operator.Limits
import RecordCalc.Proofs.Value.Flat

/-
  The items of an array, each once. What is kept is taken from the flat list in its order, no item
  the same as one kept before it and every item that is left out the same as one kept before it
  (`Keeps`); to keep each item of that once more changes nothing. The items can be told apart unless
  a comparison comes to a decimal that signals (`distinct_keeps_iff`).
-/

namespace RecordCalc.Aggregates

open Value (flatten)

/-- Of the values in their places those that are kept are each the first of their sort. -/
structure Keeps (vs : List Value) (kept : List (Value × Nat)) : Prop where
  sublist : kept.Sublist vs.zipIdx
  apart : kept.Pairwise fun p q => q.1.sameValue p.1 = .ok false
  covered : ∀ p ∈ vs.zipIdx, p ∉ kept → ∃ q ∈ kept, q.2 < p.2 ∧ p.1.sameValue q.1 = .ok true

/-! ## Looking for the same value -/

theorem isAmong_eq_false_iff {v : Value} {ws : List Value} :
    isAmong v ws = .ok false ↔ ∀ w ∈ ws, v.sameValue w = .ok false := by
  induction ws with
  | nil => exact iff_of_true rfl (by simp)
  | cons w ws ih =>
    rw [isAmong, Outcomes.bind_eq_ok_iff, List.forall_mem_cons, ← ih]
    constructor
    · rintro ⟨same, hsame, h⟩
      cases same with
      | true => cases h
      | false => exact ⟨hsame, h⟩
    · rintro ⟨hsame, h⟩
      exact ⟨false, hsame, h⟩

theorem exists_same_of_isAmong {v : Value} {ws : List Value} (h : isAmong v ws = .ok true) :
    ∃ w ∈ ws, v.sameValue w = .ok true := by
  induction ws with
  | nil => cases h
  | cons w ws ih =>
    obtain ⟨same, hsame, h⟩ := Outcomes.bind_eq_ok_iff.1 h
    cases same with
    | true => exact ⟨w, List.mem_cons_self, hsame⟩
    | false =>
      obtain ⟨u, hu, hsame⟩ := ih h
      exact ⟨u, List.mem_cons_of_mem _ hu, hsame⟩

/-! ## Keeping one value more -/

theorem keeps_nil : Keeps [] [] := ⟨.slnil, .nil, by simp⟩

section
variable {vs : List Value} {kept : List (Value × Nat)} {v : Value}

theorem zipIdx_concat (vs : List Value) (v : Value) :
    (vs ++ [v]).zipIdx = vs.zipIdx ++ [(v, vs.length)] := by
  rw [List.zipIdx_append, Nat.zero_add]
  rfl

/-- A value that is not the same as any kept one is kept. -/
theorem Keeps.concat (h : Keeps vs kept)
    (hv : ∀ w ∈ kept.map Prod.fst, v.sameValue w = .ok false) :
    Keeps (vs ++ [v]) (kept ++ [(v, vs.length)]) where
  sublist := by
    rw [zipIdx_concat]
    exact h.sublist.append (List.Sublist.refl _)
  apart := by
    refine List.pairwise_append.2 ⟨h.apart, List.pairwise_singleton _ _, fun p hp q hq => ?_⟩
    obtain rfl := List.mem_singleton.1 hq
    exact hv p.1 (List.mem_map_of_mem hp)
  covered p hp hnot := by
    rw [zipIdx_concat] at hp
    rw [List.mem_append, not_or] at hnot
    obtain ⟨q, hq, hlater⟩ :=
      h.covered p ((List.mem_append.1 hp).resolve_right hnot.2) hnot.1
    exact ⟨q, List.mem_append_left _ hq, hlater⟩

/-- A value that is the same as a kept one is left out. -/
theorem Keeps.skip (h : Keeps vs kept)
    (hv : ∃ w ∈ kept.map Prod.fst, v.sameValue w = .ok true) : Keeps (vs ++ [v]) kept where
  sublist := by
    rw [zipIdx_concat]
    exact List.sublist_append_of_sublist_left h.sublist
  apart := h.apart
  covered p hp hnot := by
    rw [zipIdx_concat] at hp
    rcases List.mem_append.1 hp with hp | hp
    · exact h.covered p hp hnot
    · obtain rfl := List.mem_singleton.1 hp
      obtain ⟨w, hw, hsame⟩ := hv
      obtain ⟨q, hq, rfl⟩ := List.mem_map.1 hw
      exact ⟨q, hq, List.snd_lt_of_mem_zipIdx (h.sublist.subset hq), hsame⟩

end

/-! ## Keeping each value once -/

theorem distinctAfter_concat (kept vs : List Value) (v : Value) :
    distinctAfter kept (vs ++ [v]) = distinctAfter kept vs >>= (keep · v) := by
  rw [distinctAfter_eq, distinctAfter_eq, List.foldlM_append]
  refine bind_congr fun ws => ?_
  rw [List.foldlM_cons]
  exact bind_pure _

theorem exists_keeps {vs ws : List Value} (h : distinctAfter [] vs = .ok ws) :
    ∃ kept, ws = kept.map Prod.fst ∧ Keeps vs kept := by
  induction vs using List.reverseRecOn generalizing ws with
  | nil =>
    cases h
    exact ⟨[], rfl, keeps_nil⟩
  | append_singleton vs v ih =>
    rw [distinctAfter_concat] at h
    obtain ⟨us, hus, h⟩ := Outcomes.bind_eq_ok_iff.1 h
    obtain ⟨kept, rfl, hkept⟩ := ih hus
    obtain ⟨among, hamong, rfl⟩ := Outcomes.map_eq_ok_iff.1 h
    cases among with
    | true => exact ⟨kept, rfl, hkept.skip (exists_same_of_isAmong hamong)⟩
    | false =>
      refine ⟨kept ++ [(v, vs.length)], ?_, hkept.concat (isAmong_eq_false_iff.1 hamong)⟩
      rw [List.map_append]
      rfl

theorem Keeps.subset {vs : List Value} {kept : List (Value × Nat)} (h : Keeps vs kept) :
    kept.map Prod.fst ⊆ vs := by
  intro w hw
  obtain ⟨p, hp, rfl⟩ := List.mem_map.1 hw
  exact List.fst_mem_of_mem_zipIdx (h.sublist.subset hp)

/-- Values that are not the same as those before them are all kept. -/
theorem distinctAfter_of_apart {kept ws : List Value}
    (h : (kept ++ ws).Pairwise fun u v => v.sameValue u = .ok false) :
    distinctAfter kept ws = .ok (kept ++ ws) := by
  induction ws generalizing kept with
  | nil => rw [List.append_nil, distinctAfter]
  | cons v ws ih =>
    have hamong : isAmong v kept = .ok false :=
      isAmong_eq_false_iff.2 fun u hu =>
        (List.pairwise_append.1 h).2.2 u hu v List.mem_cons_self
    rw [List.append_cons] at h ⊢
    rw [distinctAfter, hamong]
    exact ih h

theorem distinct_of_keeps {v : Value} {kept : List (Value × Nat)}
    (h : Keeps (flatten [v]) kept) :
    distinct (.list (kept.map Prod.fst)) = .ok (.list (kept.map Prod.fst)) := by
  have hflat : flatten [.list (kept.map Prod.fst)] = kept.map Prod.fst :=
    (List.append_nil _).trans (Value.flatten_of_subset h.subset)
  have hkept : distinctAfter [] (kept.map Prod.fst) = .ok (kept.map Prod.fst) :=
    distinctAfter_of_apart (List.pairwise_map.2 h.apart)
  rw [distinct, hflat, hkept]
  rfl

/-- Values none of which has a part that signals can be told apart. -/
theorem not_undistinguished {v : Value} (h : ∀ u ∈ flatten [v], ¬ u.HasSignaling) :
    ¬ Undistinguished v := by
  rintro ⟨before, u, after, ws, before', w, after', hflat, hkept, hws, -, hsignals⟩
  obtain ⟨f, hf⟩ := (Value.fails_sameValue u w).2 hsignals
  obtain ⟨kept, rfl, hkeeps⟩ := exists_keeps hkept
  have hw : w ∈ before := hkeeps.subset (hws ▸ by simp)
  rcases (Value.onlySignaling_sameValue u w f hf).2 with hu | hw'
  · exact h u (hflat ▸ by simp) hu
  · exact h w (hflat ▸ by simp [hw]) hw'

/-- The items can be told apart just when they come down to one of each sort, each the first of its
sort, and those to themselves. -/
theorem distinct_keeps_iff (v : Value) :
    ¬ Undistinguished v ↔ ∃ kept, distinct v = .ok (.list (kept.map Prod.fst)) ∧
      Keeps (flatten [v]) kept ∧
      distinct (.list (kept.map Prod.fst)) = .ok (.list (kept.map Prod.fst)) := by
  rw [← fails_distinct, not_fails_iff]
  constructor
  · rintro ⟨w, hw⟩
    obtain ⟨ws, hws, rfl⟩ := Outcomes.map_eq_ok_iff.1 hw
    obtain ⟨kept, rfl, hkeeps⟩ := exists_keeps hws
    exact ⟨kept, hw, hkeeps, distinct_of_keeps hkeeps⟩
  · rintro ⟨kept, hw, -⟩
    exact ⟨_, hw⟩

/-- A decimal that signals cannot be told from another number. -/
theorem not_distinct_signaling :
    let v : Value := .list [.decimal (.notANumber true false 0 none), .int 1]
    distinct v = .error .decimalInvalid ∧
      ¬ ∃ kept, distinct v = .ok (.list (kept.map Prod.fst)) ∧ Keeps (flatten [v]) kept := by
  intro v
  have hitem : (Value.number (.int 1)).equal (.decimal (.notANumber true false 0 none)) =
      .error .decimalInvalid := by
    rw [Value.equal, Value.equalNumeric]
    rfl
  have hsame : (Value.number (.int 1)).sameValue (.decimal (.notANumber true false 0 none)) =
      .error .decimalInvalid := by
    rw [Value.sameValue]
    · exact (if_pos rfl).trans hitem
    all_goals simp
  have hkept : distinctAfter [.decimal (.notANumber true false 0 none)] [.int 1] =
      .error .decimalInvalid := by
    rw [distinctAfter, isAmong, Value.int, hsame]
    rfl
  have hfails : distinct v = .error .decimalInvalid := by
    change (Value.list <$> distinctAfter [.decimal (.notANumber true false 0 none)] [.int 1]) = _
    rw [hkept]
    rfl
  refine ⟨hfails, ?_⟩
  rintro ⟨kept, hkept, -⟩
  rw [hfails] at hkept
  cases hkept

end RecordCalc.Aggregates
