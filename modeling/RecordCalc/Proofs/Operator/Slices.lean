import RecordCalc.Proofs.Operator.Texts
import RecordCalc.Proofs.Text.Search

/-
  Slices of texts, places counted from one. What is cut off at the left and what is left over join
  to the text again, and the search gives the first place at which the slice is the needle
  (`slices_join`).
-/

namespace RecordCalc.Texts

open Outcomes (ok_bind)

section
variable {s x : String} {n i k p : Int}

/-! ## Where a needle stands -/

/-- The needle `x` is the slice of `s` at the place `p`, which is `k` or later. -/
def StandsAt (x s : String) (k p : Int) : Prop :=
  max 1 k ≤ p ∧ p - 1 + x.length ≤ s.length ∧
    middle (.text s) (.int p) (.int x.length) = .ok (.text x)

theorem middle_eq_text_iff :
    middle (.text s) (.int p) (.int x.length) = .ok (.text x) ↔
      Text.slice s.toList (p - 1).toNat x.toList.length = x.toList := by
  rw [middle_text, Int.toNat_natCast, String.length_toList, Except.ok.injEq, ofChars_eq_text_iff]

theorem standsAt_iff :
    StandsAt x s k p ↔ max 1 k ≤ p ∧ Text.OccursAt x.toList s.toList (p - 1).toNat := by
  unfold StandsAt
  rw [middle_eq_text_iff, Text.occursAt_iff_slice]
  refine and_congr_right fun hp => and_congr_left fun _ => ?_
  rw [String.length_toList, String.length_toList]
  omega

/-- The place that the search gives, or zero where the needle stands nowhere. -/
theorem find_spec (x s : String) (k : Int) :
    ∃ p, find (.text x) (.text s) (.int k) = .ok (.int p) ∧
      (IsLeast {p | StandsAt x s k p} p ∨ p = 0 ∧ ∀ p, ¬ StandsAt x s k p) := by
  refine ⟨_, find_text x s k, ?_⟩
  -- Places are counted from one here and from zero in the search.
  split
  next place hfind =>
    obtain ⟨⟨hstart, hoccurs⟩, hleast⟩ := Text.isLeast_of_find? hfind
    refine .inl ⟨standsAt_iff.2 ⟨by omega, ?_⟩, fun p hp => ?_⟩
    · have hplace : ((place : Int) + 1 - 1).toNat = place := by omega
      rwa [hplace]
    · obtain ⟨hk, hoccurs'⟩ := standsAt_iff.1 hp
      have hle : place ≤ (p - 1).toNat := hleast ⟨by omega, hoccurs'⟩
      omega
  next hfind =>
    refine .inr ⟨rfl, fun p hp => ?_⟩
    obtain ⟨hk, hoccurs⟩ := standsAt_iff.1 hp
    exact Text.not_occursAt_of_find? hfind (by omega) hoccurs

/-! ## Slices that join to the text -/

theorem left_right_join (hn : 0 ≤ n) (hlength : n ≤ s.length) :
    (do concat [← left (.text s) (.int n), ← right (.text s) (.int (s.length - n))]) =
      .ok (.text s) := by
  have hcount : ((s.length : Int) - n).toNat = s.toList.length - n.toNat := by
    rw [String.length_toList]
    omega
  have hle : n.toNat ≤ s.toList.length := by
    rw [String.length_toList]
    omega
  rw [left_text, right_text, hcount, ok_bind, ok_bind, concat_ofChars,
    Text.take_append_takeRight hle, ofChars_toList]

theorem left_middle_join (hi : 1 ≤ i) (hn : 0 ≤ n) :
    (do concat [← concat [← left (.text s) (.int (i - 1)), ← middle (.text s) (.int i) (.int n)],
        ← middle (.text s) (.int (i + n)) (.int s.length)]) = .ok (.text s) := by
  have hplace : (i + n - 1).toNat = (i - 1).toNat + n.toNat := by omega
  have hjoin := Text.take_append_slice_append_slice s.toList (i - 1).toNat n.toNat
  rw [left_text, middle_text, middle_text, hplace, Int.toNat_natCast, ← String.length_toList,
    ok_bind, ok_bind, concat_ofChars, ok_bind, ok_bind, concat_ofChars, hjoin, ofChars_toList]

end

/-- A text is what is at its left and right up to a place, and what is at its left, at and after a
slice; and the search for a needle gives the least place at which the slice is the needle, or zero
where there is none. -/
theorem slices_join (s : String) :
    length (.text s) = .ok (.int s.length) ∧
      (∀ n : Int, 0 ≤ n → n ≤ s.length →
        (do concat [← left (.text s) (.int n), ← right (.text s) (.int (s.length - n))]) =
          .ok (.text s)) ∧
      (∀ i n : Int, 1 ≤ i → 0 ≤ n →
        (do concat [← concat [← left (.text s) (.int (i - 1)),
              ← middle (.text s) (.int i) (.int n)],
            ← middle (.text s) (.int (i + n)) (.int s.length)]) = .ok (.text s)) ∧
      ∀ (x : String) (k : Int), ∃ p, find (.text x) (.text s) (.int k) = .ok (.int p) ∧
        (IsLeast {p | StandsAt x s k p} p ∨ p = 0 ∧ ∀ p, ¬ StandsAt x s k p) :=
  ⟨length_text s, fun _ => left_right_join, fun _ _ => left_middle_join, fun x => find_spec x s⟩

/-- At the end of a text and past it: a slice that the text ends, and a needle that stands at the
end only when it is empty. -/
theorem slices_join_past_end :
    (do concat [← left (.text "añb") (.int 3), ← right (.text "añb") (.int 0)]) =
        .ok (.text "añb") ∧
      (do concat [← concat [← left (.text "añb") (.int 2), ← middle (.text "añb") (.int 3) (.int 9)],
          ← middle (.text "añb") (.int 12) (.int 3)]) = .ok (.text "añb") ∧
      IsLeast {p | StandsAt "" "añb" 4 p} 4 ∧ ∀ p, ¬ StandsAt "" "añb" 5 p := by
  obtain ⟨-, hsides, hslices, hfind⟩ := slices_join "añb"
  refine ⟨hsides 3 (by decide) (by decide), hslices 3 9 (by decide) (by decide), ?_, ?_⟩
  · obtain ⟨p, hp, hleast⟩ := hfind "" 4
    have hfound : find (.text "") (.text "añb") (.int 4) = .ok (.int 4) := rfl
    obtain rfl : (4 : Int) = p :=
      Number.int.inj (Value.number.inj (Except.ok.inj (hfound.symm.trans hp)))
    exact hleast.resolve_right fun h => absurd h.1 (by decide)
  · obtain ⟨p, hp, hnone⟩ := hfind "" 5
    have hmissed : find (.text "") (.text "añb") (.int 5) = .ok (.int 0) := rfl
    obtain rfl : (0 : Int) = p :=
      Number.int.inj (Value.number.inj (Except.ok.inj (hmissed.symm.trans hp)))
    refine (hnone.resolve_left fun h => ?_).2
    have hplace : max 1 5 ≤ (0 : Int) := h.1.1
    omega

end RecordCalc.Texts
