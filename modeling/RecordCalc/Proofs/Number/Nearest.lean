import Mathlib.Tactic.Positivity
import RecordCalc.Proofs.Number.Range
import RecordCalc.Proofs.Number.Whole

/-
  The value of the number nearest a quotient: the quotient rounded at the unit of its mantissa
  (`value?_ofBits_nearestBits`). A quotient that has a mantissa of 53 bits is its own nearest number
  (`value?_ofParts`). Below `2 ^ 52` the whole numbers are even multiples of the unit, so the
  nearest number reaches one just when the quotient is at most half a unit away from it
  (`natCast_le_nearestValue_iff`, `nearestValue_le_natCast_iff`).
-/

namespace RecordCalc.Binary64

/-! ## Rounding a quotient -/

section
variable {num den k : Nat}

theorem roundDiv_mul (k : Nat) (hden : den ≠ 0) : roundDiv (k * den) den = k := by
  have hpos := Nat.pos_of_ne_zero hden
  unfold roundDiv
  rw [Nat.mul_div_cancel _ hpos, Nat.mul_mod_left]
  dsimp only
  rw [if_pos (by omega)]

/-- A quotient is rounded to an even number or above from the middle before it. -/
theorem two_mul_le_roundDiv_iff (hden : 0 < den) :
    2 * k ≤ roundDiv num den ↔ 2 * k * (2 * den) ≤ 2 * num + den := by
  have hr : num % den < den := Nat.mod_lt _ hden
  have hsplit : den * (num / den) + num % den = num := Nat.div_add_mod num den
  unfold roundDiv
  dsimp only
  generalize num / den = q at hsplit ⊢
  generalize num % den = r at hr hsplit ⊢
  rcases Nat.lt_trichotomy (q + 1) (2 * k) with hlt | heq | hgt
  · have hmul : (q + 2) * (2 * den) ≤ 2 * k * (2 * den) := Nat.mul_le_mul_right _ hlt
    have hexpand : (q + 2) * (2 * den) = 2 * (den * q) + 4 * den := by ring
    refine iff_of_false ?_ (by omega)
    split
    · omega
    · split <;> omega
  · have hexpand : 2 * k * (2 * den) = 2 * (den * q) + 2 * den := by rw [← heq]; ring
    rw [hexpand]
    split
    · omega
    · split <;> omega
  · have hmul : 2 * k * (2 * den) ≤ q * (2 * den) := Nat.mul_le_mul_right _ (by omega)
    have hexpand : q * (2 * den) = 2 * (den * q) := by ring
    refine iff_of_true ?_ (by omega)
    split
    · omega
    · split <;> omega

/-- A quotient is rounded to an even number or below up to the middle after it. -/
theorem roundDiv_le_two_mul_iff (hden : 0 < den) :
    roundDiv num den ≤ 2 * k ↔ 2 * num ≤ 2 * k * (2 * den) + den := by
  have hr : num % den < den := Nat.mod_lt _ hden
  have hsplit : den * (num / den) + num % den = num := Nat.div_add_mod num den
  unfold roundDiv
  dsimp only
  generalize num / den = q at hsplit ⊢
  generalize num % den = r at hr hsplit ⊢
  rcases Nat.lt_trichotomy q (2 * k) with hlt | rfl | hgt
  · have hmul : (q + 1) * (2 * den) ≤ 2 * k * (2 * den) := Nat.mul_le_mul_right _ hlt
    have hexpand : (q + 1) * (2 * den) = 2 * (den * q) + 2 * den := by ring
    refine iff_of_true ?_ (by omega)
    split
    · omega
    · split <;> omega
  · have hexpand : 2 * k * (2 * den) = 2 * (den * (2 * k)) := by ring
    rw [hexpand]
    split
    · omega
    · split <;> omega
  · have hmul : (2 * k + 1) * (2 * den) ≤ q * (2 * den) := Nat.mul_le_mul_right _ hgt
    have hexpand : q * (2 * den) = 2 * (den * q) := by ring
    have hexpand' : (2 * k + 1) * (2 * den) = 2 * k * (2 * den) + 2 * den := by ring
    refine iff_of_false ?_ (by omega)
    split
    · omega
    · split <;> omega

end

/-! ## The nearest number -/

section
variable {negative : Bool} {num den : Nat} {e : Int}

/-- The quotient rounded at the unit of its mantissa. -/
def nearestMantissa (num den : Nat) : Nat :=
  let e := unitExponent num den
  roundDiv (num * 2 ^ (-e).toNat) (den * 2 ^ e.toNat)

theorem le_unitExponent (num den : Nat) : -1074 ≤ unitExponent num den := by
  rw [unitExponent_eq]
  exact le_max_right _ _

theorem nearestBits_of_ne (hnum : num ≠ 0) (hrange : nearestBits num den ≠ infinityBits) :
    nearestBits num den = magnitudeBits (nearestMantissa num den) (unitExponent num den) := by
  rw [nearestBits_eq hnum] at hrange ⊢
  -- the bits of infinity are not to be computed
  generalize infinityBits = limit at hrange ⊢
  exact (min_choice _ _).resolve_right hrange

theorem nearestMantissa_le (num : Nat) (hden : den ≠ 0) : nearestMantissa num den ≤ 2 ^ 53 := by
  unfold nearestMantissa
  exact roundDiv_le (unit_lt hden rfl)

theorem le_nearestMantissa (hnum : num ≠ 0) (hden : den ≠ 0) :
    2 ^ 52 ≤ nearestMantissa num den ∨ unitExponent num den = -1074 := by
  rcases (le_unitExponent num den).eq_or_lt with hlow | hlow
  · exact .inr hlow.symm
  · unfold nearestMantissa
    exact .inl (le_roundDiv (Nat.mul_ne_zero hden (Nat.two_pow_pos _).ne') (unit_le hnum rfl hlow))

theorem value?_ofBits_nearestBits (hnum : num ≠ 0) (hden : den ≠ 0)
    (hrange : nearestBits num den ≠ infinityBits) :
    value? (ofBits negative (nearestBits num den)) =
      some (signedValue negative (nearestMantissa num den) (unitExponent num den)) := by
  have hlt : nearestBits num den < infinityBits := lt_of_le_of_ne (nearestBits_le num den) hrange
  have hword := toNat_toBits_ofBits negative hlt
  have hle := nearestMantissa_le num hden
  have hlow := le_nearestMantissa hnum hden
  rw [nearestBits_of_ne hnum hrange] at hlt hword ⊢
  exact value?_of_toNat hle (le_unitExponent num den) hlow hlt hword

/-! ## Numbers that are their own nearest -/

theorem two_zpow_mul_toNat (e : Int) :
    (2 : ℚ) ^ e * 2 ^ ((-e).toNat : Int) = 2 ^ (e.toNat : Int) := by
  rw [two_zpow_mul]
  congr 1
  omega

/-- The lower bound of the mantissa, for the quotient itself. -/
theorem unit_le_cast (hnum : num ≠ 0) (he : -1074 < unitExponent num den) :
    2 ^ 52 * ((den : ℚ) * 2 ^ unitExponent num den) ≤ num := by
  have hle := unit_le hnum rfl he
  have hpos : (0 : ℚ) < 2 ^ ((-unitExponent num den).toNat : Int) := two_zpow_pos _
  rw [← mul_le_mul_iff_left₀ hpos, mul_assoc, mul_assoc, two_zpow_mul_toNat, ← natCast_two_pow,
    ← natCast_two_pow]
  exact_mod_cast hle

/-- The upper bound of the mantissa, for the quotient itself. -/
theorem cast_lt_unit (hden : den ≠ 0) :
    (num : ℚ) < 2 ^ 53 * ((den : ℚ) * 2 ^ unitExponent num den) := by
  have hlt := unit_lt hden (rfl : unitExponent num den = _)
  have hpos : (0 : ℚ) < 2 ^ ((-unitExponent num den).toNat : Int) := two_zpow_pos _
  rw [← mul_lt_mul_iff_left₀ hpos, mul_assoc, mul_assoc, two_zpow_mul_toNat, ← natCast_two_pow,
    ← natCast_two_pow]
  exact_mod_cast hlt

theorem unitExponent_le {m : Nat} (hnum : num ≠ 0) (hden : den ≠ 0) (hm : m < 2 ^ 53)
    (he : -1074 ≤ e) (h : (num : ℚ) = m * 2 ^ e * den) : unitExponent num den ≤ e := by
  rcases (le_unitExponent num den).eq_or_lt with hlow | hlow
  · omega
  have hle := unit_le_cast hnum hlow
  have hpos : (0 : ℚ) < den := Nat.cast_pos.2 (Nat.pos_of_ne_zero hden)
  have hlt : (2 : ℚ) ^ (52 + unitExponent num den) < 2 ^ (53 + e) :=
    calc (2 : ℚ) ^ (52 + unitExponent num den)
      _ = 2 ^ 52 * 2 ^ unitExponent num den := by rw [← two_zpow_mul]; rfl
      _ ≤ m * 2 ^ e := by
        rw [← mul_le_mul_iff_left₀ hpos, ← h, mul_right_comm, mul_assoc]
        exact hle
      _ < 2 ^ 53 * 2 ^ e := mul_lt_mul_of_pos_right (by exact_mod_cast hm) (two_zpow_pos e)
      _ = 2 ^ (53 + e) := by rw [← two_zpow_mul]; rfl
  rw [zpow_lt_zpow_iff_right₀ (by decide)] at hlt
  omega

/-- The mantissa nearest a quotient that is a mantissa already. -/
theorem nearestMantissa_eq {m : Nat} (hden : den ≠ 0) (he : unitExponent num den ≤ e)
    (h : (num : ℚ) = m * 2 ^ e * den) :
    nearestMantissa num den = m * 2 ^ (e - unitExponent num den).toNat := by
  unfold nearestMantissa
  dsimp only
  generalize unitExponent num den = u at he
  have hscaled : num * 2 ^ (-u).toNat = m * 2 ^ (e - u).toNat * (den * 2 ^ u.toNat) := by
    have hvalue : (num : ℚ) * 2 ^ ((-u).toNat : Int) =
        m * 2 ^ ((e - u).toNat : Int) * (den * 2 ^ (u.toNat : Int)) := by
      have hpow : (2 : ℚ) ^ e = 2 ^ ((e - u).toNat : Int) * 2 ^ u := by
        rw [two_zpow_mul]
        congr 1
        omega
      rw [h, ← two_zpow_mul_toNat u, hpow]
      ring
    rw [← natCast_two_pow, ← natCast_two_pow, ← natCast_two_pow] at hvalue
    exact_mod_cast hvalue
  rw [hscaled, roundDiv_mul _ (Nat.mul_ne_zero hden (Nat.two_pow_pos _).ne')]

theorem signedValue_shift {m : Nat} {u : Int} (he : u ≤ e) :
    signedValue negative (m * 2 ^ (e - u).toNat) u = signedValue negative m e := by
  have hvalue : ((m * 2 ^ (e - u).toNat : Nat) : ℚ) * 2 ^ u = m * 2 ^ e := by
    rw [Nat.cast_mul, natCast_two_pow, mul_assoc, two_zpow_mul,
      Int.toNat_of_nonneg (Int.sub_nonneg.2 he), Int.sub_add_cancel]
  cases negative
  · rw [signedValue_false, signedValue_false, hvalue]
  · rw [signedValue_true, signedValue_true, hvalue]

theorem value?_ofBits_of_eq (negative : Bool) {m : Nat} (hnum : num ≠ 0) (hden : den ≠ 0)
    (hm : m < 2 ^ 53) (he : -1074 ≤ e) (he' : e ≤ 971) (h : (num : ℚ) = m * 2 ^ e * den) :
    nearestBits num den ≠ infinityBits ∧
      value? (ofBits negative (nearestBits num den)) = some (signedValue negative m e) := by
  have hrange : nearestBits num den ≠ infinityBits := by
    rw [ne_eq, nearestBits_eq_infinityBits_iff hden, Nat.not_le]
    have hlt := shiftLeft_lt_rangeLimit (k := e.toNat) hm (by omega)
    rw [Nat.shiftLeft_eq] at hlt
    -- the limit is not to be computed
    generalize rangeLimit = limit at hlt ⊢
    have hle : (2 : ℚ) ^ e ≤ 2 ^ (e.toNat : Int) :=
      (zpow_le_zpow_iff_right₀ (by decide)).2 (by omega)
    have hnum : (num : ℚ) < (den * limit : Nat) :=
      calc (num : ℚ)
        _ = den * (m * 2 ^ e) := by rw [h, mul_comm]
        _ ≤ den * (m * 2 ^ (e.toNat : Int)) := by gcongr
        _ = (den * (m * 2 ^ e.toNat) : Nat) := by rw [Nat.cast_mul, Nat.cast_mul, natCast_two_pow]
        _ < (den * limit : Nat) :=
          Nat.cast_lt.2 (Nat.mul_lt_mul_of_pos_left hlt (Nat.pos_of_ne_zero hden))
    exact_mod_cast hnum
  have hunit := unitExponent_le hnum hden hm he h
  refine ⟨hrange, ?_⟩
  rw [value?_ofBits_nearestBits hnum hden hrange, nearestMantissa_eq hden hunit h,
    signedValue_shift hunit]

theorem value?_zero (negative : Bool) : value? (zero negative) = some 0 := by
  have hword := toNat_toBits_ofBits negative (n := 0) (by decide)
  have hzero : magnitudeBits 0 (-1074) = 0 := rfl
  rw [zero, value?_of_parts (parts_eq_iff.2 ⟨isCanonical_zero, hzero ▸ hword⟩), signedValue_zero]

theorem ofRatio_zero (negative : Bool) (den : Nat) : ofRatio negative 0 den = zero negative := by
  unfold ofRatio nearestBits zero
  rfl

/-- A mantissa and an exponent of a number make that number. -/
theorem value?_ofParts {m : Nat} (hm : m < 2 ^ 53) (he : -1074 ≤ e) (he' : e ≤ 971) :
    value? (ofParts negative m e) = some (signedValue negative m e) := by
  rcases Nat.eq_zero_or_pos m with rfl | hpos
  · rw [signedValue_zero]
    unfold ofParts
    split
    · rw [Nat.zero_shiftLeft, ofRatio_zero, value?_zero]
    · rw [ofRatio_zero, value?_zero]
  unfold ofParts ofRatio
  split
  next hnonneg =>
    rw [Nat.shiftLeft_eq]
    refine (value?_ofBits_of_eq negative ?_ Nat.one_ne_zero hm he he' ?_).2
    · exact Nat.mul_ne_zero hpos.ne' (Nat.two_pow_pos _).ne'
    · rw [Nat.cast_mul, natCast_two_pow, Int.toNat_of_nonneg hnonneg, Nat.cast_one, mul_one]
  next hneg =>
    rw [Nat.shiftLeft_eq, Nat.one_mul]
    refine (value?_ofBits_of_eq negative hpos.ne' (Nat.two_pow_pos _).ne' hm he he' ?_).2
    rw [natCast_two_pow, mul_assoc, two_zpow_mul, Int.toNat_of_nonneg (by omega)]
    simp

/-- A whole number of up to 53 bits is a floating-point number. -/
theorem ofInt?_eq_some {n : Int} (hn : n.natAbs < 2 ^ 53) :
    ∃ x, ofInt? n = some x ∧ value? x = some (n : ℚ) := by
  rcases eq_or_ne n 0 with rfl | hzero
  · exact ⟨zero false, by decide, value?_zero false⟩
  obtain ⟨hrange, hvalue⟩ := value?_ofBits_of_eq (n < 0) (e := 0) (Int.natAbs_ne_zero.2 hzero)
    Nat.one_ne_zero hn (by decide) (by decide) (by simp)
  unfold ofInt?
  dsimp only
  rw [if_neg hrange]
  refine ⟨_, rfl, hvalue.trans (congrArg some ?_)⟩
  rw [signedValue, signed_natAbs, zpow_zero, mul_one]

end

/-! ## Whole numbers about a quotient -/

section
variable {num den k : Nat}

/-- The value of the number nearest a quotient. -/
def nearestValue (num den : Nat) : ℚ := nearestMantissa num den * 2 ^ unitExponent num den

theorem nearestValue_zero (hden : den ≠ 0) : nearestValue 0 den = 0 := by
  have hmantissa : nearestMantissa 0 den = 0 := by
    have hunit : den * 2 ^ (unitExponent 0 den).toNat ≠ 0 :=
      Nat.mul_ne_zero hden (Nat.two_pow_pos _).ne'
    have hnone := roundDiv_mul 0 hunit
    rw [Nat.zero_mul] at hnone
    unfold nearestMantissa
    dsimp only
    rw [Nat.zero_mul, hnone]
  rw [nearestValue, hmantissa, Nat.cast_zero, zero_mul]

/-- A quotient of integers in the range is the number nearest their magnitudes, with its sign. -/
theorem ofIntRatio?_eq_nearest {a b : Int} (hb : 0 < b)
    (hrange : a.natAbs < b.natAbs * rangeLimit) :
    ∃ x, ofIntRatio? a b = some x ∧ value? x = some (if a < 0 then
      -nearestValue a.natAbs b.natAbs else nearestValue a.natAbs b.natAbs) := by
  have hden : b.natAbs ≠ 0 := Int.natAbs_ne_zero.2 hb.ne'
  have hbits : nearestBits a.natAbs b.natAbs ≠ infinityBits := by
    rw [ne_eq, nearestBits_eq_infinityBits_iff hden, Nat.not_le]
    exact hrange
  refine ⟨_, if_neg hbits, ?_⟩
  have hpositive : decide (b < 0) = false := decide_eq_false hb.not_gt
  rw [hpositive, Bool.bne_false]
  rcases eq_or_ne a 0 with rfl | hzero
  · rw [if_neg (lt_irrefl 0), Int.natAbs_zero, nearestValue_zero hden]
    exact value?_zero false
  rw [value?_ofBits_nearestBits (Int.natAbs_ne_zero.2 hzero) hden hbits]
  unfold nearestValue
  by_cases hneg : a < 0
  · rw [decide_eq_true hneg, signedValue_true, if_pos hneg]
  · rw [decide_eq_false hneg, signedValue_false, if_neg hneg]

/-- A quotient below `2 ^ 52` has a mantissa with a unit below one. -/
theorem unitExponent_neg (hnum : num ≠ 0) (hsmall : num < 2 ^ 52 * den) :
    unitExponent num den < 0 := by
  by_contra hnonneg
  have hle := unit_le hnum (rfl : unitExponent num den = _) (by omega)
  have hzero : (-unitExponent num den).toNat = 0 := by omega
  rw [hzero, Nat.pow_zero, Nat.mul_one] at hle
  have hpow : den * 1 ≤ den * 2 ^ (unitExponent num den).toNat :=
    Nat.mul_le_mul_left _ (Nat.two_pow_pos _)
  omega

/-- The unit is one halved so often. -/
def halvings (num den : Nat) : Nat := (-unitExponent num den).toNat

theorem nearestMantissa_of_small (hnum : num ≠ 0) (hsmall : num < 2 ^ 52 * den) :
    nearestMantissa num den = roundDiv (num * 2 ^ halvings num den) den := by
  have hneg := unitExponent_neg hnum hsmall
  unfold nearestMantissa halvings
  dsimp only
  rw [show (unitExponent num den).toNat = 0 by omega, Nat.pow_zero, Nat.mul_one]

theorem nearestValue_mul (hnum : num ≠ 0) (hsmall : num < 2 ^ 52 * den) :
    nearestValue num den * 2 ^ (halvings num den : Int) = nearestMantissa num den := by
  have hneg := unitExponent_neg hnum hsmall
  unfold nearestValue halvings
  rw [mul_assoc, two_zpow_mul_toNat, show (unitExponent num den).toNat = 0 by omega,
    Nat.cast_zero, zpow_zero, mul_one]

/-- A whole number is an even number of units. -/
theorem mul_two_pow_halvings (hnum : num ≠ 0) (hsmall : num < 2 ^ 52 * den) (k : Nat) :
    ∃ j, k * 2 ^ halvings num den = 2 * j := by
  have hneg := unitExponent_neg hnum hsmall
  obtain ⟨d, hd⟩ : ∃ d, halvings num den = d + 1 :=
    Nat.exists_eq_add_one_of_ne_zero (by unfold halvings; omega)
  exact ⟨k * 2 ^ d, by rw [hd, Nat.pow_succ]; ring⟩

/-- The nearest number is no less than a whole number when the quotient is at most half a unit
below. -/
theorem natCast_le_nearestValue_iff (hnum : num ≠ 0) (hsmall : num < 2 ^ 52 * den) :
    (k : ℚ) ≤ nearestValue num den ↔
      2 * (k * den) * 2 ^ halvings num den ≤ 2 * num * 2 ^ halvings num den + den := by
  have hden : 0 < den := Nat.pos_of_ne_zero (by rintro rfl; simp at hsmall)
  obtain ⟨j, hj⟩ := mul_two_pow_halvings hnum hsmall k
  have hscale : (k : ℚ) ≤ nearestValue num den ↔ 2 * j ≤ nearestMantissa num den := by
    rw [← mul_le_mul_iff_left₀ (two_zpow_pos (halvings num den)), nearestValue_mul hnum hsmall,
      ← natCast_two_pow, ← hj]
    exact_mod_cast Iff.rfl
  have hunits : 2 * j * (2 * den) = 2 * (k * den) * 2 ^ halvings num den := by
    rw [← hj]
    ring
  rw [hscale, nearestMantissa_of_small hnum hsmall, two_mul_le_roundDiv_iff hden, hunits,
    Nat.mul_assoc 2 num]

/-- The nearest number is no more than a whole number when the quotient is at most half a unit
above. -/
theorem nearestValue_le_natCast_iff (hnum : num ≠ 0) (hsmall : num < 2 ^ 52 * den) :
    nearestValue num den ≤ k ↔
      2 * num * 2 ^ halvings num den ≤ 2 * (k * den) * 2 ^ halvings num den + den := by
  have hden : 0 < den := Nat.pos_of_ne_zero (by rintro rfl; simp at hsmall)
  obtain ⟨j, hj⟩ := mul_two_pow_halvings hnum hsmall k
  have hscale : nearestValue num den ≤ k ↔ nearestMantissa num den ≤ 2 * j := by
    rw [← mul_le_mul_iff_left₀ (two_zpow_pos (halvings num den)), nearestValue_mul hnum hsmall,
      ← natCast_two_pow, ← hj]
    exact_mod_cast Iff.rfl
  have hunits : 2 * j * (2 * den) = 2 * (k * den) * 2 ^ halvings num den := by
    rw [← hj]
    ring
  rw [hscale, nearestMantissa_of_small hnum hsmall, roundDiv_le_two_mul_iff hden, hunits,
    Nat.mul_assoc 2 num]

/-- The nearest number is on no other side of a whole number than the quotient. -/
theorem natCast_le_nearestValue (hnum : num ≠ 0) (hsmall : num < 2 ^ 52 * den)
    (h : k * den ≤ num) : (k : ℚ) ≤ nearestValue num den := by
  rw [natCast_le_nearestValue_iff hnum hsmall]
  exact (Nat.mul_le_mul_right _ (Nat.mul_le_mul_left 2 h)).trans (Nat.le_add_right _ _)

theorem nearestValue_le_natCast (hnum : num ≠ 0) (hsmall : num < 2 ^ 52 * den)
    (h : num ≤ k * den) : nearestValue num den ≤ k := by
  rw [nearestValue_le_natCast_iff hnum hsmall]
  exact (Nat.mul_le_mul_right _ (Nat.mul_le_mul_left 2 h)).trans (Nat.le_add_right _ _)

/-- The mantissa has 53 bits, or fewer when its unit is the least. -/
theorem halvings_bounds (hnum : num ≠ 0) (hsmall : num < 2 ^ 52 * den) :
    num * 2 ^ halvings num den < 2 ^ 53 * den ∧
      (halvings num den < 1074 → 2 ^ 52 * den ≤ num * 2 ^ halvings num den) := by
  have hden : den ≠ 0 := by
    rintro rfl
    simp at hsmall
  have hneg := unitExponent_neg hnum hsmall
  have hzero : (unitExponent num den).toNat = 0 := by omega
  have hlt := unit_lt hden (rfl : unitExponent num den = _)
  have hle := unit_le hnum (rfl : unitExponent num den = _)
  rw [hzero, Nat.pow_zero, Nat.mul_one] at hlt hle
  refine ⟨hlt, fun hd => hle ?_⟩
  unfold halvings at hd
  omega

/-- A mantissa of 53 bits has 52 of them after the first. -/
theorem halvings_add_log2 (hden : 0 < den) (hle : den ≤ num) (hsmall : num < 2 ^ 52 * den) :
    halvings num den + (num / den).log2 = 52 := by
  have hquotient : num / den ≠ 0 := (Nat.div_pos hle hden).ne'
  obtain ⟨hlt, hnormal⟩ := halvings_bounds (by omega) hsmall
  generalize halvings num den = d at hlt hnormal ⊢
  have hlow : 2 ^ (num / den).log2 * den ≤ num :=
    (Nat.mul_le_mul_right _ (Nat.log2_self_le hquotient)).trans (Nat.div_mul_le_self ..)
  have hhigh : num < 2 ^ ((num / den).log2 + 1) * den := by
    rw [← Nat.div_lt_iff_lt_mul hden]
    exact Nat.lt_log2_self
  generalize (num / den).log2 = l at hlow hhigh ⊢
  have hupper : 2 ^ (l + d) * den < 2 ^ 53 * den :=
    calc 2 ^ (l + d) * den
      _ = 2 ^ l * den * 2 ^ d := by rw [Nat.pow_add, Nat.mul_right_comm]
      _ ≤ num * 2 ^ d := Nat.mul_le_mul_right _ hlow
      _ < 2 ^ 53 * den := hlt
  have hsum : l + d < 53 :=
    (Nat.pow_lt_pow_iff_right (by decide)).1 (Nat.lt_of_mul_lt_mul_right hupper)
  have hlower : 2 ^ 52 * den < 2 ^ (l + 1 + d) * den :=
    calc 2 ^ 52 * den
      _ ≤ num * 2 ^ d := hnormal (by omega)
      _ < 2 ^ (l + 1) * den * 2 ^ d := Nat.mul_lt_mul_of_pos_right hhigh (Nat.two_pow_pos d)
      _ = 2 ^ (l + 1 + d) * den := by rw [Nat.pow_add 2 (l + 1) d, Nat.mul_right_comm]
  have hsum' : 52 < l + 1 + d :=
    (Nat.pow_lt_pow_iff_right (by decide)).1 (Nat.lt_of_mul_lt_mul_right hlower)
  omega

/-- The unit of a number below one has more than 52 bits after the point. -/
theorem lt_halvings (hnum : num ≠ 0) (hlt : num < den) : 52 < halvings num den := by
  have hsmall : num < 2 ^ 52 * den := by omega
  obtain ⟨-, hnormal⟩ := halvings_bounds hnum hsmall
  generalize halvings num den = d at hnormal ⊢
  by_contra hd
  have hle : 2 ^ 52 * den ≤ 2 ^ 52 * num :=
    calc 2 ^ 52 * den
      _ ≤ num * 2 ^ d := hnormal (by omega)
      _ ≤ num * 2 ^ 52 := Nat.mul_le_mul_left _ (two_pow_le (by omega))
      _ = 2 ^ 52 * num := Nat.mul_comm ..
  omega

/-- Half a unit, by the whole part of the quotient. -/
theorem within_half_unit_iff {gap : Nat} (hgap : 0 < gap) (hnum : num ≠ 0) (hbound : den < 2 ^ 53)
    (hsmall : num < 2 ^ 52 * den) :
    2 * gap * 2 ^ halvings num den ≤ den ↔ gap * 2 ^ 53 ≤ den * 2 ^ (num / den).log2 := by
  rcases Nat.lt_or_ge num den with hlt | hle
  · have hzero : (num / den).log2 = 0 := by rw [Nat.div_eq_of_lt hlt]; rfl
    have hmany : 2 ^ 53 ≤ 2 * 2 ^ halvings num den :=
      Nat.mul_le_mul_left 2 (two_pow_le (lt_halvings hnum hlt).le)
    have hgap' : 2 * 2 ^ halvings num den ≤ 2 * gap * 2 ^ halvings num den :=
      Nat.mul_le_mul_right _ (by omega)
    rw [hzero]
    exact iff_of_false (by omega) (by omega)
  · have hden : 0 < den := Nat.pos_of_ne_zero (by rintro rfl; simp at hsmall)
    have hunits : 2 ^ halvings num den * 2 ^ (num / den).log2 = 2 ^ 52 := by
      rw [← Nat.pow_add, halvings_add_log2 hden hle hsmall]
    have hscale : gap * 2 ^ 53 = 2 * gap * 2 ^ halvings num den * 2 ^ (num / den).log2 := by
      rw [Nat.mul_assoc (2 * gap), hunits]
      ring
    rw [hscale, Nat.mul_le_mul_right_iff (Nat.two_pow_pos _)]

/-- When the quotient is below a whole number, the nearest number reaches it by half a unit. -/
theorem natCast_le_nearestValue_iff_gap {gap : Nat} (hgap : 0 < gap) (hnum : num ≠ 0)
    (hbound : den < 2 ^ 53) (hsmall : num < 2 ^ 52 * den) (h : k * den = num + gap) :
    (k : ℚ) ≤ nearestValue num den ↔ gap * 2 ^ 53 ≤ den * 2 ^ (num / den).log2 := by
  have hsplit : 2 * (num + gap) * 2 ^ halvings num den =
      2 * num * 2 ^ halvings num den + 2 * gap * 2 ^ halvings num den := by ring
  rw [natCast_le_nearestValue_iff hnum hsmall, ← within_half_unit_iff hgap hnum hbound hsmall, h,
    hsplit, Nat.add_le_add_iff_left]

/-- When the quotient is above a whole number, the nearest number comes down to it by half a
unit. -/
theorem nearestValue_le_natCast_iff_gap {gap : Nat} (hgap : 0 < gap) (hnum : num ≠ 0)
    (hbound : den < 2 ^ 53) (hsmall : num < 2 ^ 52 * den) (h : num = k * den + gap) :
    nearestValue num den ≤ k ↔ gap * 2 ^ 53 ≤ den * 2 ^ (num / den).log2 := by
  have hsplit : 2 * num * 2 ^ halvings num den =
      2 * (k * den) * 2 ^ halvings num den + 2 * gap * 2 ^ halvings num den := by
    rw [h]
    ring
  rw [nearestValue_le_natCast_iff hnum hsmall, ← within_half_unit_iff hgap hnum hbound hsmall,
    hsplit, Nat.add_le_add_iff_left]

end

end RecordCalc.Binary64
