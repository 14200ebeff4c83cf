import Mathlib.Data.Int.Log
import RecordCalc.Proofs.Number.FloorDivision
import RecordCalc.Proofs.Number.Limits

/-
  The number nearest a quotient, by the rule that rational numbers are rounded by: to the nearest
  whole number of the unit that leaves 53 bits, or of the least unit there is, and from the middle
  to the even one (`rounded`). A quotient of integers in the range is that number
  (`ofIntRatio?_eq_some`), and the integers next to a number are those next to its value
  (`floor?_eq`, `ceil?_eq`). An integer below `2 ^ 53` divided by one in the range has the same
  integers next to it after the rounding (`floor_rounded`, `ceil_rounded`).
-/

namespace RecordCalc.Binary64

open Float.Model (UnpackedFloat)
open Float.Model.UnpackedFloat

/-! ## Rounding to an integer -/

/-- The integer nearest a rational number, from the middle the even one. -/
def nearestInt (q : ℚ) : Int :=
  if Int.fract q < 1 / 2 then ⌊q⌋ else if 1 / 2 < Int.fract q then ⌊q⌋ + 1 else ⌊q⌋ + ⌊q⌋ % 2

section
variable {q : ℚ} {k : Int}

theorem nearestInt_intCast (k : Int) : nearestInt k = k := by
  rw [nearestInt, Int.fract_intCast, if_pos one_half_pos, Int.floor_intCast]

/-- With the other sign the two integers about a number change places. -/
theorem nearestInt_neg (q : ℚ) : nearestInt (-q) = -nearestInt q := by
  rcases eq_or_ne (Int.fract q) 0 with hwhole | hpart
  · obtain ⟨k, rfl⟩ := Int.fract_eq_zero_iff.1 hwhole
    rw [← Int.cast_neg, nearestInt_intCast, nearestInt_intCast]
  have hfloor : ⌊-q⌋ = -⌊q⌋ - 1 := by
    rw [Int.floor_eq_iff]
    have hpos : 0 < Int.fract q := (Int.fract_nonneg q).lt_of_ne' hpart
    have hlt := Int.fract_lt_one q
    have hsplit := Int.floor_add_fract q
    push_cast
    constructor <;> linarith
  have hfract : Int.fract (-q) = 1 - Int.fract q := Int.fract_neg hpart
  unfold nearestInt
  rw [hfloor, hfract]
  -- In the middle one of the two integers is even, whichever sign they have.
  rcases lt_trichotomy (Int.fract q) (1 / 2) with hlow | hmiddle | hhigh
  · rw [if_neg (by linarith), if_pos (by linarith), if_pos hlow]
    omega
  · rw [if_neg (by linarith), if_neg (by linarith), if_neg hmiddle.not_lt, if_neg hmiddle.not_gt]
    omega
  · rw [if_pos (by linarith), if_neg hhigh.not_gt, if_pos hhigh]
    omega

/-- A number is at most one half away from the nearest integer. -/
theorem abs_nearestInt_sub_le (q : ℚ) : |nearestInt q - q| ≤ 1 / 2 := by
  have hsplit := Int.floor_add_fract q
  have hnonneg := Int.fract_nonneg q
  have hlt := Int.fract_lt_one q
  unfold nearestInt
  rw [abs_le]
  split
  · constructor <;> linarith
  next hlow =>
  split
  · push_cast
    constructor <;> linarith
  next hhigh =>
    have hmiddle : Int.fract q = 1 / 2 := le_antisymm (not_lt.1 hhigh) (not_lt.1 hlow)
    rcases Int.emod_two_eq_zero_or_one ⌊q⌋ with heven | hodd
    · rw [heven]
      push_cast
      constructor <;> linarith
    · rw [hodd]
      push_cast
      constructor <;> linarith

/-- The division of naturals that rounds is that rounding of the quotient. -/
theorem roundDiv_eq (num : Nat) {den : Nat} (hden : 0 < den) :
    (roundDiv num den : Int) = nearestInt (num / den) := by
  have hfloor : ⌊(num / den : ℚ)⌋ = (num / den : Nat) := Rat.floor_natCast_div_natCast num den
  have hfract : Int.fract (num / den : ℚ) = ((num % den : Nat) : ℚ) / den :=
    Int.fract_div_natCast_eq_div_natCast_mod
  have hpos : (0 : ℚ) < den := Nat.cast_pos.2 hden
  have hlow : ((num % den : Nat) : ℚ) / den < 1 / 2 ↔ 2 * (num % den) < den := by
    rw [div_lt_div_iff₀ hpos two_pos, one_mul, mul_comm]
    exact_mod_cast Iff.rfl
  have hhigh : 1 / 2 < ((num % den : Nat) : ℚ) / den ↔ den < 2 * (num % den) := by
    rw [div_lt_div_iff₀ two_pos hpos, one_mul, mul_comm _ (2 : ℚ)]
    exact_mod_cast Iff.rfl
  unfold roundDiv nearestInt
  simp only [hfloor, hfract, hlow, hhigh]
  push_cast
  rfl

end

/-! ## Rounding to a number -/

/-- The exponent of the unit that leaves 53 bits of a rational number, or of the least unit. -/
def lastPlace (q : ℚ) : Int := max (Int.log 2 |q| - 52) (-1074)

/-- The nearest whole number of that unit, from the middle the even one. -/
def rounded (q : ℚ) : ℚ := nearestInt (q / 2 ^ lastPlace q) * 2 ^ lastPlace q

section
variable {q : ℚ} {num den : Nat}

theorem rounded_zero : rounded 0 = 0 := by
  rw [rounded, zero_div, ← Int.cast_zero, nearestInt_intCast, Int.cast_zero, zero_mul]

theorem rounded_neg (q : ℚ) : rounded (-q) = -rounded q := by
  rw [rounded, rounded, lastPlace, lastPlace, abs_neg, neg_div, nearestInt_neg, Int.cast_neg,
    neg_mul]

/-- A number is rounded by no more than half a unit. -/
theorem abs_rounded_sub_le (q : ℚ) : |rounded q - q| ≤ 2 ^ lastPlace q / 2 := by
  have hunit := two_zpow_pos (lastPlace q)
  have hscale : rounded q - q =
      (nearestInt (q / 2 ^ lastPlace q) - q / 2 ^ lastPlace q) * 2 ^ lastPlace q := by
    rw [sub_mul, div_mul_cancel₀ _ hunit.ne', rounded]
  calc |rounded q - q|
    _ = |nearestInt (q / 2 ^ lastPlace q) - q / 2 ^ lastPlace q| * 2 ^ lastPlace q := by
      rw [hscale, abs_mul, abs_of_pos hunit]
    _ ≤ 1 / 2 * 2 ^ lastPlace q :=
      mul_le_mul_of_nonneg_right (abs_nearestInt_sub_le _) hunit.le
    _ = 2 ^ lastPlace q / 2 := one_div_mul_eq_div 2 _

/-- The unit of the mantissa, by the logarithm of the quotient. -/
theorem unitExponent_eq_lastPlace (hnum : num ≠ 0) (hden : den ≠ 0) :
    unitExponent num den = lastPlace (num / den) := by
  have hpos : (0 : ℚ) < den := Nat.cast_pos.2 (Nat.pos_of_ne_zero hden)
  have hquotient : (0 : ℚ) < num / den := div_pos (Nat.cast_pos.2 (Nat.pos_of_ne_zero hnum)) hpos
  have hbelow : Int.log 2 (num / den : ℚ) < 53 + unitExponent num den := by
    rw [← Int.lt_zpow_iff_log_lt (by decide) hquotient, Nat.cast_ofNat, ← two_zpow_mul,
      div_lt_iff₀ hpos, mul_assoc, mul_comm _ (den : ℚ)]
    exact cast_lt_unit hden
  rw [lastPlace, abs_of_pos hquotient]
  rcases (le_unitExponent num den).eq_or_lt with hleast | hlow
  · rw [← hleast] at hbelow ⊢
    omega
  · have habove : 52 + unitExponent num den ≤ Int.log 2 (num / den : ℚ) := by
      rw [← Int.zpow_le_iff_le_log (by decide) hquotient, Nat.cast_ofNat, ← two_zpow_mul,
        le_div_iff₀ hpos, mul_assoc, mul_comm _ (den : ℚ)]
      exact unit_le_cast hnum hlow
    omega

/-- The value of the nearest number is the quotient rounded. -/
theorem nearestValue_eq (num : Nat) (hden : den ≠ 0) :
    nearestValue num den = rounded (num / den) := by
  rcases eq_or_ne num 0 with rfl | hnum
  · rw [nearestValue_zero hden, Nat.cast_zero, zero_div, rounded_zero]
  · have hmantissa : (nearestMantissa num den : Int) =
        nearestInt (num / den / 2 ^ unitExponent num den) := by
      unfold nearestMantissa
      dsimp only
      rw [roundDiv_eq _ (Nat.mul_pos (Nat.pos_of_ne_zero hden) (Nat.two_pow_pos _))]
      refine congrArg nearestInt ?_
      rw [Nat.cast_mul, Nat.cast_mul, natCast_two_pow, natCast_two_pow,
        ← two_zpow_mul_toNat (unitExponent num den), ← mul_assoc,
        mul_div_mul_right _ _ (two_zpow_pos _).ne', div_div]
    rw [nearestValue, rounded, ← unitExponent_eq_lastPlace hnum hden, ← hmantissa,
      Int.cast_natCast]

end

/-! ## Integers next to a quotient -/

section
variable {q : ℚ} {n s k : Int}

/-- Rounding does not go past an integer. -/
theorem le_nearestInt (h : (k : ℚ) ≤ q) : k ≤ nearestInt q := by
  have hhalf := (abs_le.1 (abs_nearestInt_sub_le q)).1
  have hlt : (k : ℚ) < (nearestInt q + 1 : Int) := by
    push_cast
    linarith
  exact Int.le_of_lt_add_one (Int.cast_lt.1 hlt)

theorem le_rounded (hunit : lastPlace q ≤ 0) (h : (k : ℚ) ≤ q) : (k : ℚ) ≤ rounded q := by
  -- An integer is a whole number of units.
  obtain ⟨d, hd⟩ : ∃ d : Nat, lastPlace q = -d := ⟨(lastPlace q).natAbs, by omega⟩
  have hunits : ((k * 2 ^ d : Int) : ℚ) = k / 2 ^ lastPlace q := by
    rw [hd, zpow_neg, div_inv_eq_mul, zpow_natCast]
    push_cast
    rfl
  have hpos := two_zpow_pos (lastPlace q)
  rw [rounded, ← div_le_iff₀ hpos, ← hunits]
  refine Int.cast_le.2 (le_nearestInt ?_)
  rw [hunits]
  exact div_le_div_of_nonneg_right h hpos.le

/-- Of a quotient of an integer below `2 ^ 53` the unit is less than twice the least part. -/
theorem lastPlace_mul_lt (hzero : n ≠ 0) (hn : n.natAbs < 2 ^ 53) (hs : 0 < s)
    (hrange : s.natAbs < rangeLimit) : (2 : ℚ) ^ lastPlace (n / s) * s < 2 := by
  have hpos : (0 : ℚ) < s := Int.cast_pos.2 hs
  have hquotient : 0 < |(n / s : ℚ)| := abs_pos.2 (div_ne_zero (Int.cast_ne_zero.2 hzero) hpos.ne')
  have habs : |(n / s : ℚ)| * s = n.natAbs := by
    rw [abs_div, abs_of_pos hpos, div_mul_cancel₀ _ hpos.ne', Nat.cast_natAbs, Int.cast_abs]
  rw [lastPlace]
  -- The least unit is small for every divisor in the range, any other by the 53 bits.
  rcases le_total (Int.log 2 |(n / s : ℚ)| - 52) (-1074) with hleast | hnormal
  · rw [max_eq_right hleast]
    have hlimit : (s : ℚ) < 2 ^ (1024 : Int) :=
      calc (s : ℚ)
        _ = s.natAbs := by rw [Nat.cast_natAbs, abs_of_pos hs]
        _ < (2 ^ 1024 : Nat) := Nat.cast_lt.2 (hrange.trans_le (by decide +kernel))
        _ = 2 ^ (1024 : Int) := natCast_two_pow 1024
    calc (2 : ℚ) ^ (-1074 : Int) * s
      _ < 2 ^ (-1074 : Int) * 2 ^ (1024 : Int) := mul_lt_mul_of_pos_left hlimit (two_zpow_pos _)
      _ = 2 ^ (-50 : Int) := two_zpow_mul _ _
      _ < 2 := by norm_num
  · rw [max_eq_left hnormal]
    have hlog : (2 : ℚ) ^ Int.log 2 |(n / s : ℚ)| ≤ |(n / s : ℚ)| :=
      Int.zpow_log_le_self (by decide) hquotient
    have hsplit : (2 : ℚ) ^ (Int.log 2 |(n / s : ℚ)| - 52) * 2 ^ 52 =
        2 ^ Int.log 2 |(n / s : ℚ)| := by
      rw [show (2 : ℚ) ^ 52 = 2 ^ (52 : Int) from rfl, two_zpow_mul, Int.sub_add_cancel]
    have hbound : (n.natAbs : ℚ) < 2 ^ 53 := by exact_mod_cast hn
    have hscaled := mul_le_mul_of_nonneg_right hlog hpos.le
    rw [← hsplit, habs] at hscaled
    linarith

/-- An integer below `2 ^ 53` divided by one in the range has the same floor when it is rounded. -/
theorem floor_rounded (hn : n.natAbs < 2 ^ 53) (hs : 0 < s) (hrange : s.natAbs < rangeLimit) :
    ⌊rounded (n / s)⌋ = ⌊(n / s : ℚ)⌋ := by
  rcases eq_or_ne n 0 with rfl | hzero
  · rw [Int.cast_zero, zero_div, rounded_zero]
  have hpos : (0 : ℚ) < s := Int.cast_pos.2 hs
  -- To the next integer it lacks one part at least, and rounding adds less than that.
  have hgap : (n / s : ℚ) + 1 / s ≤ ⌊(n / s : ℚ)⌋ + 1 := by
    have hlt : n < (⌊(n / s : ℚ)⌋ + 1) * s := by
      have := (div_lt_iff₀ hpos).1 (Int.lt_floor_add_one (n / s : ℚ))
      exact_mod_cast this
    rw [← add_div, div_le_iff₀ hpos]
    exact_mod_cast hlt
  have hsmall := lastPlace_mul_lt hzero hn hs hrange
  have hunit : lastPlace (n / s : ℚ) < 1 := by
    rw [← zpow_lt_zpow_iff_right₀ (one_lt_two : (1 : ℚ) < 2), zpow_one]
    refine lt_of_le_of_lt ?_ hsmall
    exact le_mul_of_one_le_right (two_zpow_pos _).le (by exact_mod_cast hs)
  have hhalf : (2 : ℚ) ^ lastPlace (n / s) / 2 < 1 / s := by
    rwa [div_lt_div_iff₀ two_pos hpos, one_mul]
  have herror := (abs_le.1 (abs_rounded_sub_le (n / s : ℚ))).2
  rw [Int.floor_eq_iff]
  exact ⟨le_rounded (by omega) (Int.floor_le _), by linarith⟩

/-- It has the same ceiling too. -/
theorem ceil_rounded (hn : n.natAbs < 2 ^ 53) (hs : 0 < s) (hrange : s.natAbs < rangeLimit) :
    ⌈rounded (n / s)⌉ = ⌈(n / s : ℚ)⌉ := by
  have hneg : -(n / s : ℚ) = (-n : Int) / s := by rw [Int.cast_neg, neg_div]
  rw [← neg_inj, ← Int.floor_neg, ← Int.floor_neg, ← rounded_neg, hneg,
    floor_rounded (by rwa [Int.natAbs_neg]) hs hrange]

end

/-! ## Quotients and signs of numbers -/

section
variable {x : Float} {q : ℚ} {a b : Int}

/-- A quotient in the range is the number that it is rounded to. -/
theorem ofIntRatio?_eq_some (hb : 0 < b) (hrange : a.natAbs < b.natAbs * rangeLimit) :
    ∃ x, ofIntRatio? a b = some x ∧ value? x = some (rounded (a / b)) := by
  obtain ⟨x, hx, hvalue⟩ := ofIntRatio?_eq_nearest hb hrange
  refine ⟨x, hx, hvalue.trans (congrArg some ?_)⟩
  have hden : b.natAbs ≠ 0 := Int.natAbs_ne_zero.2 hb.ne'
  have hb' : (b.natAbs : ℚ) = b := by rw [Nat.cast_natAbs, abs_of_pos hb]
  rw [nearestValue_eq _ hden, hb', Nat.cast_natAbs, Int.cast_abs]
  split
  next hneg =>
    rw [abs_of_neg (Int.cast_lt_zero.2 hneg), neg_div, rounded_neg, neg_neg]
  next hnonneg => rw [abs_of_nonneg (Int.cast_nonneg (not_lt.1 hnonneg))]

theorem value?_neg (hx : value? x = some q) : value? (-x) = some (-q) := by
  obtain ⟨s, m, e, hparts, hcanonical, rfl⟩ := parts_of_value? hx
  have hneg : -x = .ofModel (.pack (UnpackedFloat.neg x.toModel.unpack)) := rfl
  have hunpacked : (unpacked s m e).neg = unpacked (!s) m e := by
    unfold unpacked
    split
    · exact congrArg UnpackedFloat.zero (neg_signOf s)
    · simp only [UnpackedFloat.neg, neg_signOf]
  rw [hneg, unpack_toModel hparts, hunpacked, value?_pack hcanonical, signedValue_not]

/-- The ceiling of a finite number. -/
theorem ceil?_eq (hx : value? x = some q) : ceil? x = some ⌈q⌉ := by
  rw [ceil?, floor?_eq (value?_neg hx), Int.floor_neg, Option.map_some, Int.neg_neg]

end

end RecordCalc.Binary64
