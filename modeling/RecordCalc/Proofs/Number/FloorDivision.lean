import Mathlib.Data.Rat.Floor
import Mathlib.Tactic.NormNum
import RecordCalc.Proofs.Number.Nearest

/-
  The division to the floor. The remainder is the one of two whole numbers of units, with the sign
  of the dividend (`truncMod_spec`), and what is left without it is a multiple of the divisor; so
  when the divisor is a whole number, the quotient is one too, and it is the floor of the exact
  quotient (`trunc?_floorDiv`).
-/

namespace RecordCalc.Binary64

section
variable {x y : Float} {p q : ℚ} {n : Int} {negative : Bool} {m : Nat} {e : Int}

/-! ## Whole parts -/

theorem signed_mul (negative : Bool) (m k : Nat) :
    signed negative (m * k) = signed negative m * k := by
  cases negative <;> simp [signed]

theorem signedValue_of_nonneg (he : 0 ≤ e) :
    signedValue negative m e = (signed negative (m <<< e.toNat) : Int) := by
  rw [Nat.shiftLeft_eq, signed_mul, signedValue]
  push_cast
  rw [← zpow_natCast, Int.toNat_of_nonneg he]

theorem signedValue_of_neg (he : ¬ 0 ≤ e) :
    signedValue negative m e = (signed negative m : ℚ) / ((1 <<< (-e).toNat : Nat) : ℚ) := by
  have hexponent : e = -((-e).toNat : Int) := by omega
  rw [Nat.shiftLeft_eq, Nat.one_mul, natCast_two_pow, signedValue, div_eq_mul_inv, ← zpow_neg,
    ← hexponent]

/-- The floor of a finite number. -/
theorem floor?_eq (hx : value? x = some q) : floor? x = some ⌊q⌋ := by
  obtain ⟨s, m, e, hparts, -, rfl⟩ := parts_of_value? hx
  unfold floor?
  rw [hparts]
  dsimp only
  split
  next he => rw [signedValue_of_nonneg he, Int.floor_intCast]
  next he =>
    rw [signedValue_of_neg he, Rat.floor_intCast_div_natCast,
      Int.fdiv_eq_ediv_of_nonneg _ (Int.natCast_nonneg _)]

/-- A whole number without its fraction is that number. -/
theorem trunc?_whole (hx : value? x = some (n : ℚ)) : trunc? x = some n := by
  obtain ⟨s, m, e, hparts, -, hn⟩ := parts_of_value? hx
  unfold trunc?
  rw [hparts]
  dsimp only
  split
  next he =>
    rw [signedValue_of_nonneg he] at hn
    exact congrArg some (by exact_mod_cast hn.symm)
  next he =>
    rw [signedValue_of_neg he, Nat.shiftLeft_eq, Nat.one_mul] at hn
    rw [Nat.shiftRight_eq_div_pow]
    have hunit : 0 < 2 ^ (-e).toNat := Nat.two_pow_pos _
    generalize 2 ^ (-e).toNat = unit at hn hunit
    rw [eq_div_iff (Nat.cast_ne_zero.2 hunit.ne')] at hn
    have hmultiple : n * unit = signed s m := by exact_mod_cast hn
    have hnonzero : (unit : Int) ≠ 0 := Int.natCast_ne_zero.2 hunit.ne'
    refine congrArg some ?_
    cases s
    · change n * unit = m at hmultiple
      change ((m / unit : Nat) : Int) = n
      rw [Int.natCast_ediv, ← hmultiple, Int.mul_ediv_cancel _ hnonzero]
    · change n * unit = -(m : Int) at hmultiple
      change -((m / unit : Nat) : Int) = n
      have hm : (m : Int) = -n * unit := by rw [Int.neg_mul, hmultiple, Int.neg_neg]
      rw [Int.natCast_ediv, hm, Int.mul_ediv_cancel _ hnonzero, Int.neg_neg]

/-! ## The remainder -/

/-- Both numbers as whole numbers of the unit that is the lesser one of theirs. -/
theorem signedValue_at_unit {unit : Int} (h : unit ≤ e) :
    signedValue negative m e = signedValue negative (m <<< (e - unit).toNat) unit := by
  rw [Nat.shiftLeft_eq, signedValue_shift h]

theorem signedValue_nonneg_iff (hm : m ≠ 0) : 0 < signedValue negative m e ↔ negative = false := by
  have hpos : (0 : ℚ) < m * 2 ^ e :=
    mul_pos (Nat.cast_pos.2 (Nat.pos_of_ne_zero hm)) (two_zpow_pos e)
  cases negative
  · rw [signedValue_false]
    exact iff_of_true hpos rfl
  · rw [signedValue_true]
    exact iff_of_false (neg_neg_of_pos hpos).not_gt nofun

/-- The remainder of a division by a positive number, as that of two whole numbers of units. -/
theorem value?_truncMod (hx : value? x = some p) (hy : value? y = some q) (hq : 0 < q) :
    ∃ (s : Bool) (a b : Nat) (unit : Int), 0 < b ∧ p = signedValue s a unit ∧
      q = signedValue false b unit ∧ value? (truncMod x y) = some (signedValue s (a % b) unit) := by
  obtain ⟨s, m, e, hparts, hcanonical, rfl⟩ := parts_of_value? hx
  obtain ⟨s', m', e', hparts', hcanonical', rfl⟩ := parts_of_value? hy
  have hm' : m' ≠ 0 := mt signedValue_eq_zero_iff.2 hq.ne'
  obtain rfl : s' = false := (signedValue_nonneg_iff hm').1 hq
  have hpos : 0 < m' <<< (e' - min e e').toNat := by
    rw [Nat.shiftLeft_eq]
    exact Nat.mul_pos (Nat.pos_of_ne_zero hm') (Nat.two_pow_pos _)
  refine ⟨s, m <<< (e - min e e').toNat, m' <<< (e' - min e e').toNat, min e e', hpos,
    signedValue_at_unit (min_le_left e e'), signedValue_at_unit (min_le_right e e'), ?_⟩
  unfold truncMod
  rw [hparts, hparts']
  dsimp only
  rw [if_neg hm']
  refine value?_ofParts ?_ (le_min hcanonical.le_exponent hcanonical'.le_exponent)
    ((min_le_left e e').trans hcanonical.exponent_le)
  rcases le_total e e' with hle | hle
  · have hsame : (e - min e e').toNat = 0 := by omega
    rw [hsame, Nat.shiftLeft_zero]
    exact (Nat.mod_le _ _).trans_lt hcanonical.mantissa_lt
  · have hsame : (e' - min e e').toNat = 0 := by omega
    rw [hsame, Nat.shiftLeft_zero] at hpos ⊢
    exact (Nat.mod_lt _ hpos).trans hcanonical'.mantissa_lt

/-- Without the remainder there is a multiple of the divisor, not farther from zero. -/
theorem truncMod_spec (hx : value? x = some p) (hy : value? y = some q) (hq : 0 < q) :
    ∃ (k : Int) (r : ℚ), value? (truncMod x y) = some r ∧ p = k * q + r ∧ |r| < q ∧
      |k * q| ≤ |p| := by
  obtain ⟨s, a, b, unit, hb, rfl, rfl, hr⟩ := value?_truncMod hx hy hq
  have hpos := two_zpow_pos unit
  have hsplit : (a : ℚ) = (a / b : Nat) * b + (a % b : Nat) := by
    exact_mod_cast (Nat.div_add_mod' a b).symm
  have hlt : ((a % b : Nat) : ℚ) < b := by exact_mod_cast Nat.mod_lt a hb
  have hsum : (a : ℚ) * 2 ^ unit = (a / b : Nat) * (b * 2 ^ unit) + (a % b : Nat) * 2 ^ unit := by
    rw [hsplit]
    ring
  have hrest : (0 : ℚ) ≤ (a % b : Nat) * 2 ^ unit := by positivity
  have hwhole : (0 : ℚ) ≤ (a / b : Nat) * (b * 2 ^ unit) := by positivity
  have hbound : |((a % b : Nat) : ℚ) * 2 ^ unit| < b * 2 ^ unit := by
    rw [abs_of_nonneg hrest]
    exact mul_lt_mul_of_pos_right hlt hpos
  have hle : |((a / b : Nat) : ℚ) * (b * 2 ^ unit)| ≤ |(a : ℚ) * 2 ^ unit| := by
    rw [abs_of_nonneg hwhole, hsum, abs_of_nonneg (add_nonneg hwhole hrest)]
    exact le_add_of_nonneg_right hrest
  refine ⟨signed s (a / b), _, hr, ?_⟩
  rw [signedValue_false]
  cases s
  · rw [signedValue_false, signedValue_false]
    exact ⟨hsum, hbound, hle⟩
  · rw [signedValue_true, signedValue_true]
    have hk : ((signed true (a / b) : Int) : ℚ) = -((a / b : Nat) : ℚ) := by
      rw [signed, if_pos rfl, Int.cast_neg, Int.cast_natCast]
    rw [hk, abs_neg, abs_neg, neg_mul, abs_neg]
    refine ⟨?_, hbound, hle⟩
    rw [hsum]
    ring

/-! ## The quotient -/

/-- The quotient without the fraction is the floor, or one more when the remainder is negative. -/
theorem floor_div_eq {k : Int} {r : ℚ} (hp : p = k * q + r) (hr : |r| < q) :
    ⌊p / q⌋ = if r < 0 then k - 1 else k := by
  have hq : 0 < q := (abs_nonneg r).trans_lt hr
  obtain ⟨hlow, hhigh⟩ := abs_lt.1 hr
  have hquotient : p / q = k + r / q := by
    rw [hp, add_div, mul_div_assoc, div_self hq.ne', mul_one]
  rw [hquotient, Int.floor_intCast_add]
  split
  next hneg =>
    have hfloor : ⌊r / q⌋ = -1 := by
      rw [Int.floor_eq_iff, Int.cast_neg, Int.cast_one, le_div_iff₀ hq, neg_one_mul,
        neg_add_cancel]
      exact ⟨hlow.le, div_neg_of_neg_of_pos hneg hq⟩
    rw [hfloor]
    rfl
  next hnonneg =>
    have hfloor : ⌊r / q⌋ = 0 := by
      rw [Int.floor_eq_zero_iff]
      exact ⟨div_nonneg (not_lt.1 hnonneg) hq.le, (div_lt_one hq).2 hhigh⟩
    rw [hfloor, add_zero]

theorem value?_one : value? 1 = some 1 := by
  have hparts : parts 1 = .finite false (2 ^ 52) (-52) := by decide +kernel
  rw [value?_of_parts hparts, signedValue_false]
  norm_num

theorem natAbs_lt_of_abs_lt {k : Nat} (h : |(n : ℚ)| < 2 ^ k) : n.natAbs < 2 ^ k := by
  have hcast : (|n| : ℚ) < (2 ^ k : Int) := by exact_mod_cast h
  have hint : |n| < 2 ^ k := by exact_mod_cast hcast
  zify
  exact hint

/-- A whole number is its own floor. -/
theorem value?_floor (hx : value? x = some (n : ℚ)) (hn : n.natAbs < 2 ^ 53) :
    value? (floor x) = some (n : ℚ) := by
  unfold floor
  rw [floor?_eq hx, Int.floor_intCast]
  dsimp only
  split
  next hzero => rw [value?_zero, hzero, Int.cast_zero]
  next hzero =>
    obtain ⟨f, hf, hvalue⟩ := ofInt?_eq_some hn
    rw [hf, Option.getD_some, hvalue]

/-- The last steps of the division leave a whole number as it is. -/
theorem trunc?_floored (hx : value? x = some (n : ℚ)) (hn : n.natAbs < 2 ^ 53) :
    trunc? (if x == 0 then zero negative
      else if 0.5 < x - floor x then floor x + 1 else floor x) = some n := by
  have hfloor := value?_floor hx hn
  have hdifference : value? (x - floor x) = some 0 := by
    have := value?_sub (n := 0) hx hfloor (by decide) (by rw [sub_self, Int.cast_zero])
    rwa [Int.cast_zero] at this
  rw [beq_zero hx, if_neg (not_half_lt_zero hdifference)]
  split
  next hzero =>
    obtain rfl : n = 0 := by simpa using hzero
    exact trunc?_whole ((value?_zero negative).trans (by rw [Int.cast_zero]))
  · exact trunc?_whole hfloor

/-- The division to the floor by a whole number. -/
theorem trunc?_floorDiv {k : Nat} (hx : value? x = some p) (hy : value? y = some (k : ℚ))
    (hk : 0 < k) (hp : |p| < 2 ^ 52) : trunc? (floorDiv x y) = some ⌊p / k⌋ := by
  obtain ⟨a, r, hr, hsplit, hlt, hle⟩ := truncMod_spec hx hy (Nat.cast_pos.2 hk)
  have hmultiple : (a * k : Int).natAbs < 2 ^ 52 := by
    refine natAbs_lt_of_abs_lt ?_
    push_cast
    exact hle.trans_lt hp
  have hquotient : a.natAbs < 2 ^ 52 := by
    rw [Int.natAbs_mul, Int.natAbs_natCast] at hmultiple
    exact (Nat.le_mul_of_pos_right _ hk).trans_lt hmultiple
  have hrest : value? (x - truncMod x y) = some ((a * k : Int) : ℚ) := by
    refine value?_sub hx hr (by omega) ?_
    push_cast
    rw [hsplit, add_sub_cancel_right]
  have hq : value? ((x - truncMod x y) / y) = some (a : ℚ) := by
    refine value?_div hrest hy (Nat.cast_ne_zero.2 hk.ne') (by omega) ?_
    push_cast
    rw [mul_div_cancel_right₀ _ (Nat.cast_ne_zero.2 hk.ne')]
  have hcorrection : (truncMod x y != 0 && (decide (y < 0) != decide (truncMod x y < 0))) =
      decide (r < 0) := by
    have hpositive : ¬ y < 0 := fun h =>
      absurd ((lt_zero_iff hy).1 h) (not_lt.2 (Nat.cast_nonneg k))
    have hsign : decide (truncMod x y < 0) = decide (r < 0) := decide_eq_decide.2 (lt_zero_iff hr)
    rw [bne, beq_zero hr, decide_eq_false hpositive, hsign]
    by_cases hneg : r < 0
    · simp [hneg, hneg.ne]
    · simp [hneg]
  have hfloored : value? (if truncMod x y != 0 && (decide (y < 0) != decide (truncMod x y < 0)) then
      (x - truncMod x y) / y - 1 else (x - truncMod x y) / y) = some ((⌊p / k⌋ : Int) : ℚ) := by
    rw [hcorrection, floor_div_eq hsplit hlt]
    by_cases hneg : r < 0
    · rw [if_pos (decide_eq_true hneg), if_pos hneg]
      exact value?_sub hq value?_one (by omega) (by push_cast; rfl)
    · rw [if_neg (by simpa using hneg), if_neg hneg]
      exact hq
  refine trunc?_floored hfloored ?_
  rw [floor_div_eq hsplit hlt]
  split <;> omega

end

end RecordCalc.Binary64
