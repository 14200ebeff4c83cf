import Mathlib.Algebra.Group.Nat.Defs
import RecordCalc.Proofs.Value.Writing

/-
  The range of floating-point numbers. A quotient has no floating-point number near it when it
  reaches the middle between the greatest one and the next power of two (`rangeLimit`); a tie there
  goes up. So an integer or a quotient of integers becomes a floating-point number just below that
  limit (`ofInt?_eq_none_iff`, `ofIntRatio?_eq_none_iff`), and the integers next to a finite number
  are below it.
-/

namespace RecordCalc.Binary64

/-- The least natural number that is beyond the floating-point numbers. -/
def rangeLimit : Nat := Nat.pow 2 1024 - Nat.pow 2 970

theorem two_mul_rangeLimit : 2 * rangeLimit = (2 ^ 54 - 1) * 2 ^ 971 := by decide +kernel

theorem rangeLimit_pos : 0 < rangeLimit := by decide +kernel

theorem two_pow_le {j k : Nat} (h : j ≤ k) : 2 ^ j ≤ 2 ^ k := Nat.pow_le_pow_right Nat.two_pos h

/-- A number with a unit below the last one is in the range. -/
theorem mul_le_rangeLimit {k : Nat} (hk : k ≤ 970) : 2 ^ 53 * 2 ^ k ≤ rangeLimit :=
  calc 2 ^ 53 * 2 ^ k
    _ ≤ 2 ^ 53 * 2 ^ 970 := Nat.mul_le_mul_left _ (two_pow_le hk)
    _ ≤ rangeLimit := by decide +kernel

/-- A number with a unit above the last one is not. -/
theorem rangeLimit_le_mul {k : Nat} (hk : 972 ≤ k) : rangeLimit ≤ 2 ^ 52 * 2 ^ k := by
  obtain ⟨j, rfl⟩ : ∃ j, k = j + 1 := Nat.exists_eq_add_one_of_ne_zero (by omega)
  have hj : 971 ≤ j := by omega
  have hsucc : 2 ^ (j + 1) = 2 ^ j * 2 := Nat.pow_succ 2 j
  calc rangeLimit
    _ ≤ 2 ^ 52 * 2 * 2 ^ 971 := by decide +kernel
    _ ≤ 2 ^ 52 * 2 * 2 ^ j := Nat.mul_le_mul_left _ (two_pow_le hj)
    _ = 2 ^ 52 * (2 ^ j * 2) := by ac_rfl
    _ = 2 ^ 52 * 2 ^ (j + 1) := by rw [hsucc]

/-! ## Rounding a quotient -/

theorem roundDiv_le {num den k : Nat} (h : num < k * den) : roundDiv num den ≤ k := by
  have hq : num / den < k := Nat.div_lt_of_lt_mul (by rwa [Nat.mul_comm])
  unfold roundDiv
  dsimp only
  split
  · omega
  · split <;> omega

theorem le_roundDiv {num den k : Nat} (hden : den ≠ 0) (h : k * den ≤ num) :
    k ≤ roundDiv num den := by
  have hq : k ≤ num / den := (Nat.le_div_iff_mul_le (Nat.pos_of_ne_zero hden)).2 h
  unfold roundDiv
  dsimp only
  split
  · exact hq
  · split <;> omega

/-- A quotient is rounded up to a power of two from the middle before it. -/
theorem le_roundDiv_iff {num den : Nat} (h : num < 2 ^ 53 * den) :
    2 ^ 53 ≤ roundDiv num den ↔ (2 ^ 54 - 1) * den ≤ 2 * num := by
  have hden : 0 < den := Nat.pos_of_ne_zero (by rintro rfl; simp at h)
  have hq : num / den < 2 ^ 53 := Nat.div_lt_of_lt_mul (by rwa [Nat.mul_comm])
  have hr : num % den < den := Nat.mod_lt _ hden
  have hsplit : den * (num / den) + num % den = num := Nat.div_add_mod num den
  unfold roundDiv
  dsimp only
  generalize num / den = q at hq hsplit ⊢
  generalize num % den = r at hr hsplit ⊢
  rcases Nat.lt_or_ge q (2 ^ 53 - 1) with hlow | hhigh
  · have hmul : den * (q + 1) ≤ den * (2 ^ 53 - 1) := Nat.mul_le_mul_left den (by omega)
    rw [Nat.mul_add, Nat.mul_one] at hmul
    refine iff_of_false ?_ (by omega)
    split
    · omega
    · split <;> omega
  · obtain rfl : q = 2 ^ 53 - 1 := by omega
    split
    · omega
    · split <;> omega

/-! ## The unit of the mantissa -/

section
variable {num den k : Nat} {e : Int}

theorem scaled_eq (num den : Nat) (e : Int) :
    scaled num den e = (num * 2 ^ (-e).toNat, den * 2 ^ e.toNat) := by
  unfold scaled
  split
  next h =>
    have hzero : (-e).toNat = 0 := by omega
    rw [hzero, Nat.pow_zero, Nat.mul_one, Nat.shiftLeft_eq]
  next h =>
    have hzero : e.toNat = 0 := by omega
    rw [hzero, Nat.pow_zero, Nat.mul_one, Nat.shiftLeft_eq]

theorem scaled_lt (hden : den ≠ 0) (h : (num.log2 : Int) + 1 ≤ k + den.log2 + e) :
    num * 2 ^ (-e).toNat < 2 ^ k * (den * 2 ^ e.toNat) :=
  calc num * 2 ^ (-e).toNat
    _ < 2 ^ (num.log2 + 1) * 2 ^ (-e).toNat :=
      Nat.mul_lt_mul_of_pos_right Nat.lt_log2_self (Nat.two_pow_pos _)
    _ = 2 ^ (num.log2 + 1 + (-e).toNat) := (Nat.pow_add ..).symm
    _ ≤ 2 ^ (k + (den.log2 + e.toNat)) := two_pow_le (by omega)
    _ = 2 ^ k * (2 ^ den.log2 * 2 ^ e.toNat) := by rw [Nat.pow_add, Nat.pow_add]
    _ ≤ 2 ^ k * (den * 2 ^ e.toNat) :=
      Nat.mul_le_mul_left _ (Nat.mul_le_mul_right _ (Nat.log2_self_le hden))

theorem le_scaled (hnum : num ≠ 0) (h : (k : Int) + den.log2 + 1 + e ≤ num.log2) :
    2 ^ k * (den * 2 ^ e.toNat) ≤ num * 2 ^ (-e).toNat :=
  calc 2 ^ k * (den * 2 ^ e.toNat)
    _ ≤ 2 ^ k * (2 ^ (den.log2 + 1) * 2 ^ e.toNat) :=
      Nat.mul_le_mul_left _ (Nat.mul_le_mul_right _ (Nat.le_of_lt Nat.lt_log2_self))
    _ = 2 ^ (k + (den.log2 + 1 + e.toNat)) := by rw [← Nat.pow_add, ← Nat.pow_add]
    _ ≤ 2 ^ (num.log2 + (-e).toNat) := two_pow_le (by omega)
    _ = 2 ^ num.log2 * 2 ^ (-e).toNat := Nat.pow_add ..
    _ ≤ num * 2 ^ (-e).toNat := Nat.mul_le_mul_right _ (Nat.log2_self_le hnum)

/-- With half the unit the mantissa is twice as large. -/
theorem scaled_pred_lt (h : num * 2 ^ (-e).toNat < 2 ^ k * (den * 2 ^ e.toNat)) :
    num * 2 ^ (-(e - 1)).toNat < 2 ^ (k + 1) * (den * 2 ^ (e - 1).toNat) := by
  rcases Int.lt_or_le 0 e with hpos | hneg
  · have hzero : (-(e - 1)).toNat = (-e).toNat := by omega
    have hsucc : e.toNat = (e - 1).toNat + 1 := by omega
    rw [hsucc, Nat.pow_succ] at h
    rw [hzero, Nat.pow_succ]
    calc num * 2 ^ (-e).toNat
      _ < 2 ^ k * (den * (2 ^ (e - 1).toNat * 2)) := h
      _ = 2 ^ k * 2 * (den * 2 ^ (e - 1).toNat) := by ac_rfl
  · have hzero : (e - 1).toNat = e.toNat := by omega
    have hsucc : (-(e - 1)).toNat = (-e).toNat + 1 := by omega
    rw [hzero, hsucc, Nat.pow_succ, Nat.pow_succ]
    calc num * (2 ^ (-e).toNat * 2)
      _ = num * 2 ^ (-e).toNat * 2 := by ac_rfl
      _ < 2 ^ k * (den * 2 ^ e.toNat) * 2 := Nat.mul_lt_mul_of_pos_right h (by decide)
      _ = 2 ^ k * 2 * (den * 2 ^ e.toNat) := by ac_rfl

theorem unitExponent_eq (num den : Nat) :
    unitExponent num den =
      let e : Int := (num.log2 : Int) - den.log2 - 52
      max (if num * 2 ^ (-e).toNat < 2 ^ 52 * (den * 2 ^ e.toNat) then e - 1 else e) (-1074) := by
  unfold unitExponent
  simp only [scaled_eq, Nat.shiftLeft_eq, Nat.mul_comm (2 ^ 52)]

/-- The mantissa has at most 53 bits. -/
theorem unit_lt (hden : den ≠ 0) (h : unitExponent num den = e) :
    num * 2 ^ (-e).toNat < 2 ^ 53 * (den * 2 ^ e.toNat) := by
  rw [unitExponent_eq] at h
  dsimp only at h
  split at h
  next hsmall =>
    by_cases he : e = (num.log2 : Int) - den.log2 - 52 - 1
    · rw [he]
      exact scaled_pred_lt hsmall
    · exact scaled_lt hden (by omega)
  · exact scaled_lt hden (by omega)

/-- Above the least exponent the mantissa has 53 bits. -/
theorem unit_le (hnum : num ≠ 0) (h : unitExponent num den = e) (he : -1074 < e) :
    2 ^ 52 * (den * 2 ^ e.toNat) ≤ num * 2 ^ (-e).toNat := by
  rw [unitExponent_eq] at h
  dsimp only at h
  split at h
  · exact le_scaled hnum (by omega)
  next hlarge =>
    obtain rfl : e = (num.log2 : Int) - den.log2 - 52 := by omega
    exact Nat.not_lt.1 hlarge

/-! ## The limit -/

theorem nearestBits_eq (hnum : num ≠ 0) :
    nearestBits num den =
      let e := unitExponent num den
      min ((e + 1074).toNat * 2 ^ 52 +
        roundDiv (num * 2 ^ (-e).toNat) (den * 2 ^ e.toNat)) infinityBits := by
  unfold nearestBits
  rw [if_neg hnum]
  simp only [scaled_eq]
  rfl

theorem infinityBits_eq : infinityBits = 2047 * 2 ^ 52 := rfl

/-- Below the last unit a quotient is in the range. -/
theorem in_range_of_unit_lt (h : num * 2 ^ (-e).toNat < 2 ^ 53 * (den * 2 ^ e.toNat))
    (he : e < 971) : num < den * rangeLimit :=
  calc num
    _ ≤ num * 2 ^ (-e).toNat := Nat.le_mul_of_pos_right _ (Nat.two_pow_pos _)
    _ < 2 ^ 53 * (den * 2 ^ e.toNat) := h
    _ = den * (2 ^ 53 * 2 ^ e.toNat) := Nat.mul_left_comm ..
    _ ≤ den * rangeLimit := Nat.mul_le_mul_left _ (mul_le_rangeLimit (by omega))

/-- Above the last unit a quotient is out of the range. -/
theorem out_of_range_of_le_unit (h : 2 ^ 52 * (den * 2 ^ e.toNat) ≤ num * 2 ^ (-e).toNat)
    (he : 971 < e) : den * rangeLimit ≤ num :=
  calc den * rangeLimit
    _ ≤ den * (2 ^ 52 * 2 ^ e.toNat) := Nat.mul_le_mul_left _ (rangeLimit_le_mul (by omega))
    _ = 2 ^ 52 * (den * 2 ^ e.toNat) := Nat.mul_left_comm ..
    _ ≤ num * 2 ^ (-e).toNat := h
    _ = num := by rw [show (-e).toNat = 0 by omega, Nat.pow_zero, Nat.mul_one]

/-- At the last unit the middle between the greatest number and the next power of two decides. -/
theorem le_roundDiv_last_iff (h : num < 2 ^ 53 * (den * 2 ^ 971)) :
    2 ^ 53 ≤ roundDiv num (den * 2 ^ 971) ↔ den * rangeLimit ≤ num := by
  have hdouble : (2 ^ 54 - 1) * (den * 2 ^ 971) = 2 * (den * rangeLimit) :=
    calc (2 ^ 54 - 1) * (den * 2 ^ 971)
      _ = den * ((2 ^ 54 - 1) * 2 ^ 971) := Nat.mul_left_comm ..
      _ = den * (2 * rangeLimit) := by rw [two_mul_rangeLimit]
      _ = 2 * (den * rangeLimit) := Nat.mul_left_comm ..
  rw [le_roundDiv_iff h, hdouble]
  exact Nat.mul_le_mul_left_iff (by decide)

/-- A quotient is beyond the floating-point numbers from the limit on. -/
theorem nearestBits_eq_infinityBits_iff (hden : den ≠ 0) :
    nearestBits num den = infinityBits ↔ den * rangeLimit ≤ num := by
  by_cases hnum : num = 0
  · have hpos : 0 < den * rangeLimit := Nat.mul_pos (Nat.pos_of_ne_zero hden) rangeLimit_pos
    rw [hnum]
    exact iff_of_false (by simp [nearestBits, infinityBits]) (Nat.not_le.2 hpos)
  obtain ⟨e, he⟩ : ∃ e, unitExponent num den = e := ⟨_, rfl⟩
  have hlt := unit_lt hden he
  have hle := unit_le hnum he
  rw [nearestBits_eq hnum, he, infinityBits_eq]
  dsimp only
  rcases Int.lt_trichotomy e 971 with hlow | rfl | hhigh
  · have hround := roundDiv_le hlt
    have hexponent : (e + 1074).toNat ≤ 2044 := by omega
    exact iff_of_false (by omega) (Nat.not_le.2 (in_range_of_unit_lt hlt hlow))
  · have hzero : (-971 : Int).toNat = 0 := rfl
    have hunit : (971 : Int).toNat = 971 := rfl
    have hexponent : (971 + 1074 : Int).toNat = 2045 := rfl
    rw [hzero, hunit, Nat.pow_zero, Nat.mul_one] at hlt
    rw [hzero, hunit, hexponent, Nat.pow_zero, Nat.mul_one, ← le_roundDiv_last_iff hlt]
    have hround := roundDiv_le hlt
    omega
  · have hpow : 2 ^ e.toNat ≠ 0 := Nat.ne_of_gt (Nat.two_pow_pos _)
    have hround := le_roundDiv (Nat.mul_ne_zero hden hpow) (hle (by omega))
    have hexponent : 2046 ≤ (e + 1074).toNat := by omega
    exact iff_of_true (by omega) (out_of_range_of_le_unit (hle (by omega)) hhigh)

end

/-! ## Integers and their quotients -/

theorem ofInt?_eq_none_iff {n : Int} : ofInt? n = none ↔ rangeLimit ≤ n.natAbs := by
  have hbits : nearestBits n.natAbs 1 = infinityBits ↔ 1 * rangeLimit ≤ n.natAbs :=
    nearestBits_eq_infinityBits_iff Nat.one_ne_zero
  rw [Nat.one_mul] at hbits
  rw [← hbits, ofInt?]
  split
  next h => exact iff_of_true rfl h
  next h => exact iff_of_false nofun h

theorem ofIntRatio?_eq_none_iff {a b : Int} (hb : b ≠ 0) :
    ofIntRatio? a b = none ↔ b.natAbs * rangeLimit ≤ a.natAbs := by
  rw [← nearestBits_eq_infinityBits_iff (Int.natAbs_ne_zero.2 hb), ofIntRatio?]
  split
  next h => exact iff_of_true rfl h
  next h => exact iff_of_false nofun h

/-! ## Integers next to a finite number -/

/-- The greatest finite number is below the limit. -/
theorem shiftLeft_lt_rangeLimit {m k : Nat} (hm : m < 2 ^ 53) (hk : k ≤ 971) :
    m <<< k < rangeLimit :=
  calc m <<< k
    _ = m * 2 ^ k := Nat.shiftLeft_eq ..
    _ ≤ (2 ^ 53 - 1) * 2 ^ k := Nat.mul_le_mul_right _ (Nat.le_sub_one_of_lt hm)
    _ ≤ (2 ^ 53 - 1) * 2 ^ 971 := Nat.mul_le_mul_left _ (two_pow_le hk)
    _ < rangeLimit := by decide +kernel

theorem natAbs_fdiv_le (n : Int) (k : Nat) : (Int.fdiv n k).natAbs ≤ n.natAbs := by
  rw [Int.fdiv_eq_ediv_of_nonneg _ (Int.natCast_nonneg k)]
  exact Int.natAbs_ediv_le_natAbs n k

theorem natAbs_floor?_lt {x : Float} {n : Int} (h : floor? x = some n) :
    n.natAbs < rangeLimit := by
  unfold floor? at h
  split at h
  next negative m e hparts =>
    obtain ⟨hm, he⟩ := bounds_of_parts hparts
    obtain rfl := Option.some.inj h
    split
    · rw [natAbs_signed]
      exact shiftLeft_lt_rangeLimit hm (by omega)
    · refine Nat.lt_of_le_of_lt (natAbs_fdiv_le _ _) ?_
      rw [natAbs_signed]
      exact Nat.lt_trans hm (by decide +kernel)
  · cases h

theorem natAbs_ceil?_lt {x : Float} {n : Int} (h : ceil? x = some n) : n.natAbs < rangeLimit := by
  obtain ⟨m, hm, rfl⟩ := Option.map_eq_some_iff.1 h
  rw [Int.natAbs_neg]
  exact natAbs_floor?_lt hm

end RecordCalc.Binary64
