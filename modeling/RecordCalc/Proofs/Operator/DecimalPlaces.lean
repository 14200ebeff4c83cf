import Mathlib.Algebra.Group.Int.Defs
import RecordCalc.Proofs.Number.NearestMultiple
import RecordCalc.Proofs.Operator.Limits

/-
  Integers rounded to decimal places. With places after the point an integer stays as it is. Before
  the point it is rounded to the nearest multiple of a power of ten as long as that has no more
  digits than a decimal may have, and is left as it is otherwise; so rounding gives the nearest
  multiple just when the multiple has so few digits or the integer is one (`round_isNearest_iff`).
-/

namespace RecordCalc.Arithmetic

open Binary64 (rangeLimit)

variable {n : Int} {k : Nat}

/-- The multiple that an integer is rounded to has no more digits than a decimal may have: the
integer is more than half a unit below the least one with too many. -/
def FitsPrecision (n : Int) (k : Nat) : Prop :=
  2 * n.natAbs + 10 ^ k < 2 * 10 ^ (Decimal.precision + k)

instance (n : Int) (k : Nat) : Decidable (FitsPrecision n k) := Nat.decLt _ _

theorem fitsPrecision_iff :
    FitsPrecision n k ↔ unitsNear (10 ^ k) n.natAbs < 10 ^ Decimal.precision := by
  have hpow : 10 ^ Decimal.precision * (2 * 10 ^ k) = 2 * 10 ^ (Decimal.precision + k) := by
    rw [Nat.pow_add, Nat.mul_left_comm]
  rw [← Nat.not_le, le_unitsNear_iff (Nat.pow_pos (by decide)), hpow, Nat.not_le]
  rfl

theorem round_nonneg {d : Int} (hd : 0 ≤ d) (n : Int) :
    round (.int n) (.int d) = .ok (.int n) := by
  have hkept : Number.roundHalfAway (.int n) d = .ok (.int n) := if_pos hd
  exact congrArg (Value.number <$> ·) hkept

/-- To places before the point: an integer among the floating-point numbers is rounded where the
multiple fits, and no other is rounded. -/
theorem round_neg (hk : 0 < k) (hlimit : k ≤ Decimal.exponentLimit) (hn : n.natAbs < rangeLimit) :
    round (.int n) (.int (-k)) =
      .ok (.int (if FitsPrecision n k then
        Binary64.signed (n < 0) (unitsNear (10 ^ k) n.natAbs * 10 ^ k) else n)) := by
  obtain ⟨x, hx⟩ := Number.exists_toFloat hn
  have hdigits : ¬ (0 : Int) ≤ -k := by omega
  have hplaces : ¬ Decimal.scaleLimit < (-(k : Int)).natAbs := by
    have hscale : Decimal.scaleLimit = 2 * (Decimal.exponentLimit + Decimal.precision) := rfl
    omega
  have hexponent : ¬ (Decimal.exponentLimit : Int) < - -(k : Int) := by omega
  have hround : (Number.int n).roundHalfAway (-k) =
      .ok (.int (if FitsPrecision n k then
        Binary64.signed (n < 0) (unitsNear (10 ^ k) n.natAbs * 10 ^ k) else n)) := by
    rw [Number.roundHalfAway, if_neg hdigits, hx]
    change Number.roundHalfAway.roundWritten (.int n) (-k) = _
    rw [Number.roundHalfAway.roundWritten, if_neg hplaces, if_neg hexponent]
    dsimp only [Number.writtenForm]
    rw [Int.neg_neg, Decimal.roundAt_natural]
    by_cases hfits : FitsPrecision n k
    · rw [if_pos hfits, if_pos (fitsPrecision_iff.1 hfits)]
      have hbefore : -(k : Int) ≤ 0 := by omega
      dsimp only
      rw [if_pos hbefore, Decimal.integer_natural]
    · rw [if_neg hfits, if_neg (mt fitsPrecision_iff.2 hfits)]
  exact congrArg (Value.number <$> ·) hround

/-- An integer that is too far for a floating-point number is not rounded to places before the
point. -/
theorem fails_round_neg (hk : 0 < k) (hn : rangeLimit ≤ n.natAbs) :
    Fails (round (.int n) (.int (-k))) := by
  rw [fails_round]
  exact ⟨by change -(k : Int) < 0; omega, .inl hn⟩

/-- Rounding an integer to a power of ten gives the nearest multiple just when the integer is no
greater than a floating-point number and the multiple either has no more digits than a decimal or is
the integer itself; rounding to places after the point leaves the integer as it is. -/
theorem round_isNearest_iff (n : Int) {d : Int} (hd : d.natAbs ≤ 1000) :
    (0 ≤ d → round (.int n) (.int d) = .ok (.int n)) ∧
      (d < 0 →
        ((∃ r, round (.int n) (.int d) = .ok (.int r) ∧
            IsNearestMultiple (10 ^ d.natAbs : Nat) n r) ↔
          n.natAbs < rangeLimit ∧
            (FitsPrecision n d.natAbs ∨ ((10 ^ d.natAbs : Nat) : Int) ∣ n))) := by
  refine ⟨fun hnonneg => round_nonneg hnonneg n, fun hneg => ?_⟩
  obtain ⟨k, hk, rfl⟩ : ∃ k : Nat, 0 < k ∧ d = -k := ⟨d.natAbs, by omega, by omega⟩
  rw [Int.natAbs_neg, Int.natAbs_natCast] at hd ⊢
  have hlimit : k ≤ Decimal.exponentLimit := Nat.le_trans hd (by decide)
  have hunit : 0 < 10 ^ k := Nat.pow_pos (by decide)
  rcases Nat.lt_or_ge n.natAbs rangeLimit with hn | hfar
  · rw [round_neg hk hlimit hn, and_iff_right hn]
    by_cases hfits : FitsPrecision n k
    · rw [if_pos hfits]
      exact iff_of_true ⟨_, rfl, isNearestMultiple_signed hunit n⟩ (.inl hfits)
    · rw [if_neg hfits, or_iff_right hfits, ← isNearestMultiple_self_iff]
      refine ⟨?_, fun h => ⟨n, rfl, h⟩⟩
      rintro ⟨r, hr, hnearest⟩
      obtain rfl := Number.int.inj (Value.number.inj (Except.ok.inj hr))
      exact hnearest
  · refine iff_of_false ?_ fun h => absurd h.1 (Nat.not_lt.2 hfar)
    rintro ⟨r, hr, -⟩
    exact not_fails_iff.2 ⟨_, hr⟩ (fails_round_neg hk hfar)

/-- A half goes away from zero. -/
theorem round_isNearest_half :
    (-2 : Int).natAbs ≤ 1000 ∧ (-2 : Int) < 0 ∧ FitsPrecision (-1250) 2 ∧
      round (.int (-1250)) (.int (-2)) = .ok (.int (-1300)) ∧
      IsNearestMultiple (10 ^ 2 : Nat) (-1250) (-1300) := by
  have hd : (-2 : Int).natAbs ≤ 1000 := by decide
  have hfits : FitsPrecision (-1250) 2 := by decide
  obtain ⟨r, hr, hnearest⟩ :=
    ((round_isNearest_iff (-1250) hd).2 (by decide)).2 ⟨by decide +kernel, .inl hfits⟩
  obtain rfl : r = -1300 := (isNearestMultiple_iff (by decide)).1 hnearest
  exact ⟨hd, by decide, hfits, hr, hnearest⟩

/-- An integer of thirty digits is left as it is, though a multiple of ten is nearer. -/
theorem not_round_isNearest_long :
    round (.int (10 ^ 29 + 1)) (.int (-1)) = .ok (.int (10 ^ 29 + 1)) ∧
      IsNearestMultiple 10 (10 ^ 29 + 1) (10 ^ 29) ∧
      ¬ IsNearestMultiple 10 (10 ^ 29 + 1) (10 ^ 29 + 1) := by
  have hkept : ¬ FitsPrecision (10 ^ 29 + 1) 1 := by decide
  have hround : round (.int (10 ^ 29 + 1)) (.int (-1)) = _ :=
    round_neg (k := 1) (by decide) (by decide) (by decide +kernel)
  rw [if_neg hkept] at hround
  have hnearest : IsNearestMultiple (10 : Nat) (10 ^ 29 + 1) (10 ^ 29) :=
    (isNearestMultiple_iff (by decide)).2 (by decide)
  exact ⟨hround, hnearest, fun h => absurd (hnearest.unique h) (by decide)⟩

end RecordCalc.Arithmetic
