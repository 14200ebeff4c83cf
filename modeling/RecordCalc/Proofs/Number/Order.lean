import Mathlib.Order.WithBotTop
import RecordCalc.Proofs.Number.Whole

/-
  The order of floating-point numbers. Every number but not-a-number has a place among the rational
  numbers and the two infinities (`place?`), and one number is below another just when its place is
  (`lt_iff_place`). So not-a-number is neither below nor above any number.
-/

namespace RecordCalc.Binary64

open Float.Model (UnpackedFloat)
open Float.Model.UnpackedFloat

/-- The place of parts in the order of numbers, none for not-a-number. -/
def Parts.place? : Parts → Option (WithBotTop ℚ)
  | .finite negative m e => some (signedValue negative m e : ℚ)
  | .infinite true => some ⊥
  | .infinite false => some ⊤
  | .notANumber => none

/-- The place of a floating-point number in the order of numbers, none for not-a-number. -/
def place? (x : Float) : Option (WithBotTop ℚ) := (parts x).place?

theorem place?_eq_none_iff {x : Float} : place? x = none ↔ isNaN x = true := by
  rw [place?, isNaN, beq_iff_eq]
  cases parts x with
  | finite negative m e => simp [Parts.place?]
  | infinite negative => cases negative <;> simp [Parts.place?]
  | notANumber => simp [Parts.place?]

theorem place?_of_value? {x : Float} {q : ℚ} (h : value? x = some q) : place? x = some ↑q := by
  obtain ⟨negative, m, e, hparts, -, rfl⟩ := parts_of_value? h
  rw [place?, hparts]
  rfl

/-! ## Finite parts -/

section
variable {negative negative' : Bool} {m m' : Nat} {e e' : Int}

/-- The greater exponent has the greater magnitude, whatever the mantissas. -/
theorem magnitude_lt_of_exponent_lt (h : IsCanonical m e) (h' : IsCanonical m' e') (he : e < e') :
    (m : ℚ) * 2 ^ e < m' * 2 ^ e' := by
  have hm' : 2 ^ 52 ≤ m' := h'.normal.resolve_right (by have := h.le_exponent; omega)
  have hdouble : (2 : ℚ) ^ (e + 1) = 2 ^ e * 2 := zpow_add_one₀ (by decide) e
  calc (m : ℚ) * 2 ^ e
    _ < 2 ^ 53 * 2 ^ e := mul_lt_mul_of_pos_right (by exact_mod_cast h.mantissa_lt) (two_zpow_pos e)
    _ = 2 ^ 52 * 2 ^ (e + 1) := by rw [hdouble]; ring
    _ ≤ m' * 2 ^ (e + 1) :=
      mul_le_mul_of_nonneg_right (by exact_mod_cast hm') (two_zpow_pos _).le
    _ ≤ m' * 2 ^ e' :=
      mul_le_mul_of_nonneg_left (zpow_le_zpow_right₀ (by decide) he) (Nat.cast_nonneg _)

theorem magnitude_lt_iff (h : IsCanonical m e) (h' : IsCanonical m' e') :
    (m : ℚ) * 2 ^ e < m' * 2 ^ e' ↔ e < e' ∨ e = e' ∧ m < m' := by
  rcases lt_trichotomy e e' with he | rfl | he
  · exact iff_of_true (magnitude_lt_of_exponent_lt h h' he) (.inl he)
  · rw [mul_lt_mul_iff_left₀ (two_zpow_pos e), Nat.cast_lt]
    simp
  · exact iff_of_false (magnitude_lt_of_exponent_lt h' h he).not_gt (by omega)

theorem then_compare_eq_lt_iff :
    (compare e e').then (compare m m') = .lt ↔ e < e' ∨ e = e' ∧ m < m' := by
  rw [Ordering.then_eq_lt, compare_lt_iff_lt, compare_eq_iff_eq, compare_lt_iff_lt]

theorem then_compare_eq_gt_iff :
    (compare e e').then (compare m m') = .gt ↔ e' < e ∨ e' = e ∧ m' < m := by
  rw [Ordering.then_eq_gt, compare_gt_iff_gt, compare_eq_iff_eq, compare_gt_iff_gt, eq_comm]

theorem magnitude_pos (hm : 0 < m) (e : Int) : (0 : ℚ) < m * 2 ^ e :=
  mul_pos (Nat.cast_pos.2 hm) (two_zpow_pos e)

/-- Two finite numbers compare as their values do. -/
theorem compare_unpacked_eq_lt_iff (h : IsCanonical m e) (h' : IsCanonical m' e') :
    (unpacked negative m e).compare (unpacked negative' m' e') = some .lt ↔
      signedValue negative m e < signedValue negative' m' e' := by
  rcases Nat.eq_zero_or_pos m with rfl | hm
  · rw [unpacked_zero, signedValue_zero]
    rcases Nat.eq_zero_or_pos m' with rfl | hm'
    · rw [unpacked_zero, signedValue_zero]
      exact iff_of_false nofun (lt_irrefl 0)
    have hpos' := magnitude_pos hm' e'
    rw [unpacked_pos _ _ hm']
    cases negative' with
    | false => exact iff_of_true rfl (signedValue_false m' e' ▸ hpos')
    | true => exact iff_of_false nofun (signedValue_true m' e' ▸ (neg_neg_of_pos hpos').not_gt)
  have hpos := magnitude_pos hm e
  rw [unpacked_pos _ _ hm]
  rcases Nat.eq_zero_or_pos m' with rfl | hm'
  · rw [unpacked_zero, signedValue_zero]
    cases negative with
    | false => exact iff_of_false nofun (signedValue_false m e ▸ hpos.not_gt)
    | true => exact iff_of_true rfl (signedValue_true m e ▸ neg_neg_of_pos hpos)
  have hpos' := magnitude_pos hm' e'
  rw [unpacked_pos _ _ hm']
  cases negative with
  | false =>
    rw [signedValue_false]
    cases negative' with
    | false =>
      rw [signedValue_false, magnitude_lt_iff h h', ← then_compare_eq_lt_iff]
      exact Option.some_inj
    | true =>
      rw [signedValue_true]
      exact iff_of_false nofun ((neg_neg_of_pos hpos').trans hpos).not_gt
  | true =>
    rw [signedValue_true]
    cases negative' with
    | false =>
      rw [signedValue_false]
      exact iff_of_true rfl ((neg_neg_of_pos hpos).trans hpos')
    | true =>
      -- of two numbers below zero the one of greater magnitude is less
      rw [signedValue_true, neg_lt_neg_iff, magnitude_lt_iff h' h, ← then_compare_eq_gt_iff,
        ← Ordering.swap_eq_lt]
      exact Option.some_inj

end

/-! ## Infinities and not-a-number -/

/-- Parts as the operations of the core library get them. -/
def Parts.unpacked : Parts → UnpackedFloat
  | .finite negative m e => Binary64.unpacked negative m e
  | .infinite negative => .infinity (signOf negative)
  | .notANumber => .notANumber

/-- Infinities and not-a-number have the greatest exponent field. -/
theorem unpack_of_greatest {x : Float} (h : x.toBits.toNat / 2 ^ 52 % 2048 = 2047) :
    x.toModel.unpack = (parts x).unpacked := by
  have hexponent : @unpackExponent .binary64 x.toBits.toBitVec = -1#11 := by
    rw [← BitVec.toNat_inj, toNat_unpackExponent, Nat.pow_eq]
    exact h
  have hmantissa : @unpackMantissa .binary64 x.toBits.toBitVec = 0#52 ↔
      x.toBits.toNat % 2 ^ 52 = 0 := by
    rw [← BitVec.toNat_inj, toNat_unpackMantissa]
    rfl
  have hsign : Sign.ofBitVec (@unpackSign .binary64 x.toBits.toBitVec) =
      signOf (decide (2 ^ 63 ≤ x.toBits.toNat)) := by
    refine ofBitVec_unpackSign (Nat.mod_lt x.toBits.toNat (by decide)) ?_
    rw [signBits_decide x.toBits.toNat_lt, Nat.mul_comm]
    exact (Nat.mod_add_div _ _).symm
  change unpack .binary64 x.toBits.toBitVec = _
  unfold unpack parts
  simp only [Nat.pow_eq]
  rw [if_pos hexponent, if_pos h, hsign]
  by_cases hfraction : x.toBits.toNat % 2 ^ 52 = 0
  · rw [if_pos (hmantissa.2 hfraction), if_pos hfraction]
    rfl
  · rw [if_neg (mt hmantissa.1 hfraction), if_neg hfraction]
    rfl

theorem unpack_toModel_eq (x : Float) : x.toModel.unpack = (parts x).unpacked := by
  by_cases h : x.toBits.toNat / 2 ^ 52 % 2048 = 2047
  · exact unpack_of_greatest h
  · have hparts : ∃ negative m e, parts x = .finite negative m e := by
      unfold parts
      simp only [Nat.pow_eq]
      rw [if_neg h]
      split <;> exact ⟨_, _, _, rfl⟩
    obtain ⟨negative, m, e, hparts⟩ := hparts
    rw [unpack_toModel hparts, hparts]
    rfl

theorem compare_unpacked_infinity (negative negative' : Bool) (m : Nat) (e : Int) :
    (unpacked negative m e).compare (.infinity (signOf negative')) =
      some (if negative' then .gt else .lt) := by
  unfold unpacked
  split <;> cases negative' <;> rfl

theorem compare_infinity_unpacked (negative negative' : Bool) (m : Nat) (e : Int) :
    UnpackedFloat.compare (.infinity (signOf negative)) (unpacked negative' m e) =
      some (if negative then .lt else .gt) := by
  unfold unpacked
  split <;> cases negative <;> rfl

theorem compare_infinities_eq_lt_iff (negative negative' : Bool) :
    UnpackedFloat.compare (.infinity (signOf negative)) (.infinity (signOf negative')) = some .lt ↔
      negative = true ∧ negative' = false := by
  cases negative <;> cases negative' <;> exact Option.some_inj.trans (by decide)

theorem compare_notANumber (f : UnpackedFloat) :
    f.compare .notANumber = none ∧ UnpackedFloat.compare .notANumber f = none := by
  cases f <;> exact ⟨rfl, rfl⟩

/-! ## Comparing -/

/-- A number is below another just when both have a place in the order and its place is below. -/
theorem lt_iff_place {x y : Float} :
    x < y ↔ ∃ p q, place? x = some p ∧ place? y = some q ∧ p < q := by
  rw [lt_iff, beq_iff_eq, unpack_toModel_eq, unpack_toModel_eq, place?, place?]
  cases hx : parts x with
  | finite negative m e =>
    cases hy : parts y with
    | finite negative' m' e' =>
      have hcanonical := (toNat_toBits_of_parts hx).1
      have hcanonical' := (toNat_toBits_of_parts hy).1
      simp [Parts.unpacked, Parts.place?, compare_unpacked_eq_lt_iff hcanonical hcanonical']
    | infinite negative' =>
      cases negative' <;>
        simp [Parts.unpacked, Parts.place?, compare_unpacked_infinity, lt_top_iff_ne_top]
    | notANumber => simp [Parts.unpacked, Parts.place?, compare_notANumber]
  | infinite negative =>
    cases hy : parts y with
    | finite negative' m' e' =>
      cases negative <;>
        simp [Parts.unpacked, Parts.place?, compare_infinity_unpacked, bot_lt_iff_ne_bot]
    | infinite negative' =>
      cases negative <;> cases negative' <;>
        simp [Parts.unpacked, Parts.place?, compare_infinities_eq_lt_iff]
    | notANumber => simp [Parts.unpacked, Parts.place?, compare_notANumber]
  | notANumber => simp [Parts.unpacked, Parts.place?, compare_notANumber]

end RecordCalc.Binary64
