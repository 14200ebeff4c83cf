import RecordCalc.Proofs.Number.Word

/-
  Operations whose exact result is a whole number. A whole number below `2 ^ 53` has a mantissa and
  an exponent of its own, and rounding leaves it as it is (`roundWithAccuracy_whole`); so a
  difference and a quotient that are such whole numbers are exact (`value?_sub`, `value?_div`).
-/

namespace RecordCalc.Binary64

open Float.Model (UnpackedFloat totalExponent)
open Float.Model.UnpackedFloat

/-! ## Binary logarithms -/

theorem two_zpow_pos (e : Int) : (0 : ℚ) < 2 ^ e := zpow_pos (by decide) e

theorem two_zpow_mul (e f : Int) : (2 : ℚ) ^ e * 2 ^ f = 2 ^ (e + f) :=
  (zpow_add₀ (by decide) e f).symm

theorem natCast_two_pow (k : Nat) : ((2 ^ k : Nat) : ℚ) = 2 ^ (k : Int) := by
  rw [zpow_natCast]
  push_cast
  rfl

section
variable {a b : Nat} {e f : Int}

theorem zpow_log2_le (ha : a ≠ 0) (e : Int) : (2 : ℚ) ^ (a.log2 + e) ≤ a * 2 ^ e := by
  rw [← two_zpow_mul, ← natCast_two_pow]
  exact mul_le_mul_of_nonneg_right (by exact_mod_cast Nat.log2_self_le ha) (two_zpow_pos e).le

theorem lt_zpow_log2 (a : Nat) (e : Int) : (a : ℚ) * 2 ^ e < 2 ^ ((a.log2 : Int) + 1 + e) := by
  rw [← two_zpow_mul, ← Int.natCast_succ, ← natCast_two_pow]
  exact mul_lt_mul_of_pos_right (by exact_mod_cast Nat.lt_log2_self) (two_zpow_pos e)

theorem log2_add_le (ha : a ≠ 0) (h : (a : ℚ) * 2 ^ e ≤ b * 2 ^ f) :
    (a.log2 : Int) + e ≤ b.log2 + f := by
  have hlt := ((zpow_log2_le ha e).trans h).trans_lt (lt_zpow_log2 b f)
  rw [zpow_lt_zpow_iff_right₀ (by decide)] at hlt
  omega

/-- Equal numbers have equal logarithms, whatever the exponents. -/
theorem log2_add_eq (ha : a ≠ 0) (h : (a : ℚ) * 2 ^ e = b * 2 ^ f) :
    (a.log2 : Int) + e = b.log2 + f := by
  have hb : b ≠ 0 := by
    rintro rfl
    have hpos := mul_pos (Nat.cast_pos.2 (Nat.pos_of_ne_zero ha)) (two_zpow_pos e)
    simp [h] at hpos
  exact le_antisymm (log2_add_le ha h.le) (log2_add_le hb h.ge)

theorem log2_mul_le (ha : a ≠ 0) (hb : b ≠ 0) : (a * b).log2 ≤ a.log2 + b.log2 + 1 := by
  have hlt : a * b < 2 ^ (a.log2 + 1) * 2 ^ (b.log2 + 1) :=
    Nat.mul_lt_mul'' Nat.lt_log2_self Nat.lt_log2_self
  rw [← Nat.pow_add] at hlt
  have := (Nat.log2_lt (Nat.mul_ne_zero ha hb)).2 hlt
  omega

end

/-! ## Rounding -/

section
variable {n m : Nat} {e : Int} {negative : Bool}

/-- The mantissa of a whole number. -/
def wholeMantissa (n : Nat) : Nat := n * 2 ^ (52 - n.log2)

/-- The exponent of a whole number. -/
def wholeExponent (n : Nat) : Int := n.log2 - 52

theorem log2_le_of_lt (hn : 0 < n) (hlt : n < 2 ^ 53) : n.log2 ≤ 52 :=
  Nat.le_of_lt_succ ((Nat.log2_lt hn.ne').2 hlt)

theorem value_whole (hn : 0 < n) (hlt : n < 2 ^ 53) :
    (wholeMantissa n : ℚ) * 2 ^ wholeExponent n = n := by
  have hlog := log2_le_of_lt hn hlt
  unfold wholeMantissa wholeExponent
  rw [Nat.cast_mul, natCast_two_pow, mul_assoc, two_zpow_mul, Nat.cast_sub hlog]
  simp

theorem isCanonical_whole (hn : 0 < n) (hlt : n < 2 ^ 53) :
    IsCanonical (wholeMantissa n) (wholeExponent n) := by
  have hlog := log2_le_of_lt hn hlt
  have hpow : 2 ^ n.log2 * 2 ^ (52 - n.log2) = 2 ^ 52 := by
    rw [← Nat.pow_add, Nat.add_sub_cancel' hlog]
  unfold wholeMantissa wholeExponent
  refine ⟨?_, by omega, by omega, .inl ?_⟩
  · calc n * 2 ^ (52 - n.log2)
      _ < 2 ^ (n.log2 + 1) * 2 ^ (52 - n.log2) :=
        Nat.mul_lt_mul_of_pos_right Nat.lt_log2_self (Nat.two_pow_pos _)
      _ = 2 * (2 ^ n.log2 * 2 ^ (52 - n.log2)) := by rw [Nat.pow_succ', Nat.mul_assoc]
      _ = 2 * 2 ^ 52 := by rw [hpow]
      _ = 2 ^ 53 := rfl
  · calc 2 ^ 52
      _ = 2 ^ n.log2 * 2 ^ (52 - n.log2) := hpow.symm
      _ ≤ n * 2 ^ (52 - n.log2) := Nat.mul_le_mul_right _ (Nat.log2_self_le hn.ne')

/-- The bits that are shifted out are all zero. -/
theorem shiftRight_exact (j k : Nat) :
    ExtendedMantissa.mk (j * 2 ^ k) false false >>> k = ExtendedMantissa.mk j false false := by
  induction k generalizing j with
  | zero => rw [Nat.pow_zero, Nat.mul_one]; rfl
  | succ k ih =>
    have hdouble : j * 2 ^ (k + 1) = j * 2 * 2 ^ k := by rw [Nat.pow_succ]; ac_rfl
    rw [hdouble]
    calc ExtendedMantissa.mk (j * 2 * 2 ^ k) false false >>> (k + 1)
      _ = (ExtendedMantissa.mk (j * 2 * 2 ^ k) false false >>> k).shiftRightOne := rfl
      _ = (ExtendedMantissa.mk (j * 2) false false).shiftRightOne := by rw [ih]
      _ = ExtendedMantissa.mk j false false := by simp [ExtendedMantissa.shiftRightOne]

theorem targetExponent_eq (t : Int) :
    Float.Model.Format.targetExponent .binary64 t = max (t - 53) (-1074) := rfl

theorem targetExponent_whole (hn : 0 < n) (h : (m : ℚ) * 2 ^ e = n) :
    Float.Model.Format.targetExponent .binary64 (totalExponent m e) = wholeExponent n := by
  have hm : m ≠ 0 := by
    rintro rfl
    exact hn.ne' (by simpa using h.symm)
  have hlog := log2_add_eq (f := 0) hm (by simpa using h)
  rw [targetExponent_eq, totalExponent, wholeExponent]
  omega

theorem shiftToTargetExponent_whole (hn : 0 < n) (hlt : n < 2 ^ 53) (h : (m : ℚ) * 2 ^ e = n)
    (he : e ≤ wholeExponent n) :
    shiftToTargetExponent .binary64 m e .exact =
      (ExtendedMantissa.mk (wholeMantissa n) false false, wholeExponent n) := by
  obtain ⟨k, hk⟩ := Int.eq_ofNat_of_zero_le (Int.sub_nonneg.2 he)
  have hm : m = wholeMantissa n * 2 ^ k := by
    have hvalue : (m : ℚ) * 2 ^ e = ((wholeMantissa n * 2 ^ k : Nat) : ℚ) * 2 ^ e := by
      rw [h, Nat.cast_mul, natCast_two_pow, mul_assoc, two_zpow_mul, ← hk, Int.sub_add_cancel,
        value_whole hn hlt]
    exact_mod_cast mul_right_cancel₀ (two_zpow_pos e).ne' hvalue
  unfold shiftToTargetExponent shiftToExponent
  dsimp only
  rw [targetExponent_whole hn h, hk, Int.toNat_natCast, hm]
  refine Prod.ext (shiftRight_exact _ k) ?_
  dsimp only
  omega

theorem roundWithAccuracy_whole (hn : 0 < n) (hlt : n < 2 ^ 53) (h : (m : ℚ) * 2 ^ e = n)
    (he : e ≤ wholeExponent n) :
    roundWithAccuracy .binary64 (signOf negative) m e .exact =
      unpacked negative (wholeMantissa n) (wholeExponent n) := by
  unfold roundWithAccuracy
  rw [shiftToTargetExponent_whole hn hlt h he]
  dsimp only [ExtendedMantissa.roundedMantissa, ExtendedMantissa.accuracy,
    Accuracy.roundToNearestEven]
  rw [shiftToTargetExponent_whole hn hlt (value_whole hn hlt) le_rfl]
  rfl

theorem round_whole (hn : 0 < n) (hlt : n < 2 ^ 53) (h : (m : ℚ) * 2 ^ e = n) :
    round .binary64 (signOf negative) m e =
      unpacked negative (wholeMantissa n) (wholeExponent n) := by
  unfold UnpackedFloat.round decreaseExponent
  dsimp only
  rw [targetExponent_whole hn h]
  refine roundWithAccuracy_whole hn hlt ?_ (by omega)
  rw [Nat.shiftLeft_eq, Nat.cast_mul, natCast_two_pow, mul_assoc, two_zpow_mul]
  simpa using h

/-! ## Packing the result -/

theorem value?_pack (h : IsCanonical m e) :
    value? (.ofModel (.pack (unpacked negative m e))) = some (signedValue negative m e) :=
  value?_of_parts (parts_pack h)

theorem isCanonical_zero : IsCanonical 0 (-1074) := by
  refine ⟨by decide, by decide, by decide, .inr rfl⟩

theorem value?_pack_zero (s : Sign) : value? (.ofModel (.pack (.zero s))) = some 0 := by
  have hzero (negative : Bool) :
      value? (.ofModel (.pack (unpacked negative 0 (-1074)))) = some 0 := by
    rw [value?_pack isCanonical_zero]
    simp [signedValue, signed]
  cases s with
  | negative => exact hzero true
  | positive => exact hzero false

theorem value?_pack_whole (hn : 0 < n) (hlt : n < 2 ^ 53) :
    value? (.ofModel (.pack (unpacked negative (wholeMantissa n) (wholeExponent n)))) =
      some (signed negative n : ℚ) := by
  rw [value?_pack (isCanonical_whole hn hlt)]
  cases negative
  · rw [signedValue_false, value_whole hn hlt]
    simp [signed]
  · rw [signedValue_true, value_whole hn hlt]
    simp [signed]

/-- The number packed from a rounded whole number of either sign. -/
theorem value?_pack_round (negative : Bool) {a : Int} (hn : 0 < a.natAbs) (hlt : a.natAbs < 2 ^ 53)
    (hnegative : signed negative a.natAbs = a) (h : (m : ℚ) * 2 ^ e = (a.natAbs : ℚ)) :
    value? (.ofModel (.pack (round .binary64 (signOf negative) m e))) = some (a : ℚ) := by
  rw [round_whole hn hlt h, value?_pack_whole hn hlt, hnegative]

theorem value?_pack_normalize {a n : Int} {zeroSign : Sign} (hlt : n.natAbs < 2 ^ 53)
    (h : (a : ℚ) * 2 ^ e = n) :
    value? (.ofModel (.pack (normalize .binary64 a e zeroSign))) = some (n : ℚ) := by
  have hpos := two_zpow_pos e
  unfold UnpackedFloat.normalize
  rcases Int.lt_trichotomy a 0 with ha | rfl | ha
  · have hn : n < 0 := by
      have := mul_neg_of_neg_of_pos (Int.cast_lt_zero.2 ha) hpos
      exact_mod_cast h ▸ this
    have habs : (n.natAbs : ℤ) = -n := by omega
    have hvalue : (((-a).toNat : ℤ) : ℚ) * 2 ^ e = ((n.natAbs : ℤ) : ℚ) := by
      rw [Int.toNat_of_nonneg (by omega), habs, Int.cast_neg, Int.cast_neg, neg_mul, h]
    rw [show compare a 0 = .lt from compare_lt_iff_lt.2 ha]
    refine value?_pack_round true (by omega) hlt (by simp [signed, habs]) ?_
    rwa [Int.cast_natCast, Int.cast_natCast] at hvalue
  · obtain rfl : n = 0 := by simpa using h.symm
    rw [show compare (0 : Int) 0 = .eq from rfl]
    exact_mod_cast value?_pack_zero zeroSign
  · have hn : 0 < n := by
      have := mul_pos (Int.cast_pos.2 ha) hpos
      exact_mod_cast h ▸ this
    have habs : (n.natAbs : ℤ) = n := by omega
    have hvalue : ((a.toNat : ℤ) : ℚ) * 2 ^ e = ((n.natAbs : ℤ) : ℚ) := by
      rw [Int.toNat_of_nonneg ha.le, habs, h]
    rw [show compare a 0 = .gt from compare_gt_iff_gt.2 ha]
    refine value?_pack_round false (by omega) hlt (by simp [signed, habs]) ?_
    rwa [Int.cast_natCast, Int.cast_natCast] at hvalue

end

/-! ## Differences and quotients -/

section
variable {x y : Float} {p q : ℚ} {n : Int}

theorem sub_eq (x y : Float) :
    x - y = .ofModel (.pack (UnpackedFloat.sub .binary64 x.toModel.unpack y.toModel.unpack)) := rfl

theorem div_eq (x y : Float) :
    x / y = .ofModel (.pack (UnpackedFloat.div .binary64 x.toModel.unpack y.toModel.unpack)) := rfl

theorem neg_signOf (negative : Bool) : -signOf negative = signOf (!negative) := by
  cases negative <;> rfl

theorem div_signOf (a b : Bool) : signOf a / signOf b = signOf (a != b) := by
  cases a <;> cases b <;> rfl

theorem unpacked_zero (negative : Bool) (e : Int) :
    unpacked negative 0 e = .zero (signOf negative) :=
  dif_pos rfl

theorem unpacked_pos {m : Nat} (negative : Bool) (e : Int) (h : 0 < m) :
    unpacked negative m e = .finite (signOf negative) m e h := (finite_eq_unpacked h).symm

theorem signedValue_zero (negative : Bool) (e : Int) : signedValue negative 0 e = 0 := by
  cases negative <;> simp [signedValue, signed]

theorem signedValue_eq_zero_iff {negative : Bool} {m : Nat} {e : Int} :
    signedValue negative m e = 0 ↔ m = 0 := by
  have hpos := (two_zpow_pos e).ne'
  cases negative <;> simp [signedValue_false, signedValue_true, hpos]

theorem signedValue_not (negative : Bool) (m : Nat) (e : Int) :
    signedValue (!negative) m e = -signedValue negative m e := by
  cases negative <;> simp [signedValue_false, signedValue_true]

/-- The signed mantissa with a lesser exponent. -/
theorem apply_decreased {m : Nat} {e k : Int} {negative : Bool} (hk : k ≤ e) :
    (((signOf negative).apply (m <<< (e - k).toNat : Nat) : Int) : ℚ) * 2 ^ k =
      signedValue negative m e := by
  have hvalue : ((m <<< (e - k).toNat : Nat) : ℚ) * 2 ^ k = m * 2 ^ e := by
    rw [Nat.shiftLeft_eq, Nat.cast_mul, natCast_two_pow, mul_assoc, two_zpow_mul,
      Int.toNat_of_nonneg (Int.sub_nonneg.2 hk), Int.sub_add_cancel]
  generalize m <<< (e - k).toNat = j at hvalue ⊢
  cases negative
  · rw [signedValue_false, ← hvalue]
    simp [signOf, Sign.apply]
  · rw [signedValue_true, ← hvalue]
    simp [signOf, Sign.apply]

/-- A difference that is a whole number is exact. -/
theorem value?_sub (hx : value? x = some p) (hy : value? y = some q) (hn : n.natAbs < 2 ^ 53)
    (h : p - q = n) : value? (x - y) = some (n : ℚ) := by
  obtain ⟨s, m, e, hparts, hcanonical, rfl⟩ := parts_of_value? hx
  obtain ⟨s', m', e', hparts', hcanonical', rfl⟩ := parts_of_value? hy
  rw [sub_eq, unpack_toModel hparts, unpack_toModel hparts']
  rcases Nat.eq_zero_or_pos m with rfl | hm
  · rw [signedValue_zero, zero_sub] at h
    rw [unpacked_zero]
    rcases Nat.eq_zero_or_pos m' with rfl | hm'
    · rw [signedValue_zero, neg_zero] at h
      rw [unpacked_zero, ← h, UnpackedFloat.sub]
      split
      · exact value?_pack_zero _
      · exact value?_pack_zero _
    · rw [unpacked_pos s' e' hm', UnpackedFloat.sub, neg_signOf, finite_eq_unpacked,
        value?_pack hcanonical', signedValue_not, h]
  rcases Nat.eq_zero_or_pos m' with rfl | hm'
  · have hsame : UnpackedFloat.sub .binary64 (.finite (signOf s) m e hm) (.zero (signOf s')) =
        .finite (signOf s) m e hm := rfl
    rw [signedValue_zero, sub_zero] at h
    rw [unpacked_zero, unpacked_pos s e hm, hsame, finite_eq_unpacked, value?_pack hcanonical, h]
  rw [unpacked_pos s e hm, unpacked_pos s' e' hm', UnpackedFloat.sub]
  dsimp only [decreaseExponent]
  refine value?_pack_normalize hn ?_
  rw [Int.cast_sub, sub_mul, apply_decreased (min_le_left e e'),
    apply_decreased (min_le_right e e'), h]

/-- The mantissa of the quotient has no bit after it, and no higher exponent than the number. -/
theorem divCore_whole {m m' n : Nat} {e e' : Int} (hm : 0 < m) (hm' : 0 < m') (hn : 0 < n)
    (hlt : n < 2 ^ 53) (h : (m : ℚ) * 2 ^ e = n * (m' * 2 ^ e')) :
    ∃ j k, divCore .binary64 m e m' e' = (j, k, .exact) ∧ (j : ℚ) * 2 ^ k = n ∧
      k ≤ wholeExponent n := by
  have hlog : (m.log2 : Int) + e = (n * m').log2 + e' := by
    refine log2_add_eq hm.ne' ?_
    rw [h, Nat.cast_mul, mul_assoc]
  have hmul := log2_mul_le hn.ne' hm'.ne'
  unfold divCore
  rw [targetExponent_eq]
  dsimp only [totalExponent]
  generalize hk : min (e - e') _ = k
  have hexponent : k ≤ wholeExponent n := by
    unfold wholeExponent
    omega
  have hn' := log2_le_of_lt hn hlt
  obtain ⟨d, rfl⟩ : ∃ d : Nat, k = -d := by
    unfold wholeExponent at hexponent
    exact ⟨(-k).toNat, by omega⟩
  have hshift : m <<< (e - e' - -(d : Int)).toNat = n * 2 ^ d * m' := by
    have hvalue : ((m * 2 ^ (e - e' - -(d : Int)).toNat : Nat) : ℚ) * 2 ^ (e' - d) =
        ((n * 2 ^ d * m' : Nat) : ℚ) * 2 ^ (e' - d) := by
      have hnat : ((e - e' - -(d : Int)).toNat : Int) + (e' - d) = e := by omega
      have hpow : (2 : ℚ) ^ e' = 2 ^ (d : Int) * 2 ^ (e' - d) := by
        rw [two_zpow_mul]
        congr 1
        omega
      rw [Nat.cast_mul, natCast_two_pow, mul_assoc, two_zpow_mul, hnat, h, hpow, Nat.cast_mul,
        Nat.cast_mul, natCast_two_pow]
      ring
    rw [Nat.shiftLeft_eq]
    exact_mod_cast mul_right_cancel₀ (two_zpow_pos _).ne' hvalue
  refine ⟨n * 2 ^ d, -d, ?_, ?_, hexponent⟩
  · rw [hshift, Nat.mul_div_cancel _ hm', Nat.mul_mod_left]
    rfl
  · rw [Nat.cast_mul, natCast_two_pow, mul_assoc, two_zpow_mul]
    simp

theorem div_signedValue {m m' : Nat} {e e' : Int} {s s' : Bool} :
    signedValue s m e / signedValue s' m' e' =
      if s != s' then -((m : ℚ) * 2 ^ e / (m' * 2 ^ e')) else (m : ℚ) * 2 ^ e / (m' * 2 ^ e') := by
  cases s <;> cases s' <;>
    simp [signedValue_false, signedValue_true, neg_div, div_neg]

/-- The sign and the magnitude of a quotient that is a whole number. -/
theorem signed_of_div {m m' : Nat} {e e' : Int} {s s' : Bool} (hm : 0 < m) (hm' : 0 < m')
    (h : signedValue s m e / signedValue s' m' e' = n) :
    0 < n.natAbs ∧ signed (s != s') n.natAbs = n ∧
      (m : ℚ) * 2 ^ e = (n.natAbs : ℚ) * (m' * 2 ^ e') := by
  have hpos : (0 : ℚ) < m * 2 ^ e := mul_pos (Nat.cast_pos.2 hm) (two_zpow_pos e)
  have hpos' : (0 : ℚ) < m' * 2 ^ e' := mul_pos (Nat.cast_pos.2 hm') (two_zpow_pos e')
  have hquotient := div_pos hpos hpos'
  have habs (h : (m : ℚ) * 2 ^ e / (m' * 2 ^ e') = ((n.natAbs : Int) : ℚ)) :
      (m : ℚ) * 2 ^ e = n.natAbs * (m' * 2 ^ e') := by
    rwa [div_eq_iff hpos'.ne', Int.cast_natCast] at h
  rw [div_signedValue] at h
  split at h
  next hs =>
    have hn : n < 0 := by
      rw [← neg_lt_zero, h] at hquotient
      exact_mod_cast hquotient
    have hnatAbs : (n.natAbs : Int) = -n := by omega
    refine ⟨by omega, by simp [signed, hs, hnatAbs], habs ?_⟩
    rw [hnatAbs, Int.cast_neg, ← h, neg_neg]
  next hs =>
    have hn : 0 < n := by
      rw [h] at hquotient
      exact_mod_cast hquotient
    have hnatAbs : (n.natAbs : Int) = n := by omega
    refine ⟨by omega, by simp [signed, hs, hnatAbs], habs ?_⟩
    rw [hnatAbs, ← h]

/-- A quotient that is a whole number is exact. -/
theorem value?_div (hx : value? x = some p) (hy : value? y = some q) (hq : q ≠ 0)
    (hn : n.natAbs < 2 ^ 53) (h : p / q = n) : value? (x / y) = some (n : ℚ) := by
  obtain ⟨s, m, e, hparts, -, rfl⟩ := parts_of_value? hx
  obtain ⟨s', m', e', hparts', -, rfl⟩ := parts_of_value? hy
  have hm' : 0 < m' := Nat.pos_of_ne_zero (mt signedValue_eq_zero_iff.2 hq)
  rw [div_eq, unpack_toModel hparts, unpack_toModel hparts', unpacked_pos s' e' hm']
  rcases Nat.eq_zero_or_pos m with rfl | hm
  · rw [signedValue_zero, zero_div] at h
    rw [unpacked_zero, ← h]
    exact value?_pack_zero _
  obtain ⟨hpos, hsigned, hquotient⟩ := signed_of_div hm hm' h
  obtain ⟨j, k, hcore, hvalue, hk⟩ := divCore_whole hm hm' hpos hn hquotient
  rw [unpacked_pos s e hm, UnpackedFloat.div, div_signOf, hcore]
  dsimp only
  rw [roundWithAccuracy_whole hpos hn hvalue hk, value?_pack_whole hpos hn, hsigned]

/-! ## Comparisons with zero -/

theorem parts_zero : parts 0 = .finite false 0 (-1074) := by decide +kernel

theorem parts_half : parts 0.5 = .finite false (2 ^ 52) (-53) := by decide +kernel

theorem beq_zero (hx : value? x = some p) : (x == 0) = decide (p = 0) := by
  obtain ⟨s, m, e, hparts, -, rfl⟩ := parts_of_value? hx
  have hbeq : (x == 0) = (x.toModel.unpack.compare (0 : Float).toModel.unpack == some .eq) := rfl
  rw [hbeq, unpack_toModel parts_zero, unpack_toModel hparts]
  rcases Nat.eq_zero_or_pos m with rfl | hm
  · rw [signedValue_zero, unpacked_zero]
    rfl
  · rw [unpacked_pos s e hm, decide_eq_false (mt signedValue_eq_zero_iff.1 hm.ne')]
    cases s <;> rfl

theorem lt_iff (x y : Float) :
    x < y ↔ (x.toModel.unpack.compare y.toModel.unpack == some .lt) = true := by
  show Float.lt x y = true ↔ _
  unfold Float.lt
  rw [decide_eq_true_iff]
  rfl

theorem lt_zero_iff (hx : value? x = some p) : x < 0 ↔ p < 0 := by
  obtain ⟨s, m, e, hparts, -, rfl⟩ := parts_of_value? hx
  rw [lt_iff, unpack_toModel parts_zero, unpack_toModel hparts]
  rcases Nat.eq_zero_or_pos m with rfl | hm
  · rw [signedValue_zero, unpacked_zero]
    exact iff_of_false (by cases s <;> decide) (lt_irrefl 0)
  · rw [unpacked_pos s e hm]
    have hpos : (0 : ℚ) < m * 2 ^ e := mul_pos (Nat.cast_pos.2 hm) (two_zpow_pos e)
    cases s
    · rw [signedValue_false]
      exact iff_of_false nofun hpos.not_gt
    · rw [signedValue_true]
      exact iff_of_true rfl (neg_neg_of_pos hpos)

theorem not_half_lt_zero (hx : value? x = some 0) : ¬ 0.5 < x := by
  obtain ⟨s, m, e, hparts, -, hzero⟩ := parts_of_value? hx
  rw [lt_iff, unpack_toModel parts_half, unpack_toModel hparts,
    signedValue_eq_zero_iff.1 hzero.symm, unpacked_zero, unpacked_pos false _ (by decide)]
  nofun

end

end RecordCalc.Binary64
