import RecordCalc.Calendar.DateTime
import RecordCalc.Number.Decimal

/-
  Floating-point numbers that are not not-a-number. A word stands for not-a-number when its exponent
  has all bits set and its fraction is not zero (`isNaN_eq_true_iff`). No number that is made from
  the bits of a magnitude up to infinity is one (`isNaN_ofBits`); so neither is the number nearest a
  quotient or a decimal, nor a timestamp.
-/

namespace RecordCalc.Binary64

open Float.Model (UnpackedFloat)
open Float.Model.UnpackedFloat

/-! ## The fields of a word -/

theorem toNat_unpackExponent (b : BitVec 64) :
    (@unpackExponent .binary64 b).toNat = b.toNat / Nat.pow 2 52 % 2048 := by
  simp [unpackExponent, BitVec.extractLsb_toNat, Nat.shiftRight_eq_div_pow]

theorem toNat_unpackMantissa (b : BitVec 64) :
    (@unpackMantissa .binary64 b).toNat = b.toNat % Nat.pow 2 52 := by
  simp [unpackMantissa, BitVec.extractLsb_toNat, Nat.shiftRight_eq_div_pow]

/-- The word stands for not-a-number. -/
def HasNaNFields (b : BitVec 64) : Prop :=
  @unpackExponent .binary64 b = -1#11 ∧ @unpackMantissa .binary64 b ≠ 0#52

theorem hasNaNFields_iff (b : BitVec 64) :
    HasNaNFields b ↔ b.toNat / Nat.pow 2 52 % 2048 = 2047 ∧ b.toNat % Nat.pow 2 52 ≠ 0 := by
  rw [HasNaNFields, ← BitVec.toNat_inj, ne_eq, ← BitVec.toNat_inj, toNat_unpackExponent,
    toNat_unpackMantissa]
  rfl

theorem isNaN_eq_true_iff (x : Float) : isNaN x = true ↔ HasNaNFields x.toBits.toBitVec := by
  rw [hasNaNFields_iff, isNaN, beq_iff_eq]
  simp only [parts, UInt64.toNat_toBitVec]
  split
  · split <;> simp_all
  · split <;> simp_all

/-! ## Unpacking and packing -/

theorem unpack_ne_notANumber {b : BitVec 64} (h : ¬ HasNaNFields b) :
    unpack .binary64 b ≠ .notANumber := by
  unfold unpack
  dsimp only
  by_cases hexponent : @unpackExponent .binary64 b = -1#11
  · have hmantissa : @unpackMantissa .binary64 b = 0#52 :=
      Decidable.of_not_not fun hm => h ⟨hexponent, hm⟩
    rw [if_pos hexponent, if_pos hmantissa]
    rintro ⟨⟩
  rw [if_neg hexponent]
  by_cases hsmall : @unpackExponent .binary64 b = 0#11
  · rw [if_pos hsmall]
    by_cases hzero : @unpackMantissa .binary64 b = 0#52
    · rw [dif_pos hzero]
      rintro ⟨⟩
    · rw [dif_neg hzero]
      rintro ⟨⟩
  · rw [if_neg hsmall]
    rintro ⟨⟩

theorem not_hasNaNFields_packComponents {s : Sign} {e : BitVec 11} {m : BitVec 52}
    (h : e ≠ -1#11 ∨ m = 0#52) : ¬ HasNaNFields (packComponents .binary64 s e m) := by
  rintro ⟨he, hm⟩
  rw [unpackExponent_packComponents] at he
  rw [unpackMantissa_packComponents] at hm
  exact h.elim (· he) hm

theorem not_hasNaNFields_pack {f : UnpackedFloat} (h : f ≠ .notANumber) :
    ¬ HasNaNFields (pack .binary64 f) := by
  cases f with
  | notANumber => exact absurd rfl h
  | infinity s | zero s => exact not_hasNaNFields_packComponents (Or.inr rfl)
  | finite s m e hm =>
    unfold pack
    dsimp only
    split
    · exact not_hasNaNFields_packComponents (Or.inr rfl)
    next hexponent =>
    split
    · refine not_hasNaNFields_packComponents (Or.inl fun he => ?_)
      have hbits := congrArg BitVec.toNat he
      simp at hbits hexponent
      omega
    · exact not_hasNaNFields_packComponents (Or.inl (by decide))

theorem toBitVec_toBits_ofBits (u : UInt64) :
    (Float.ofBits u).toBits.toBitVec = pack .binary64 (unpack .binary64 u.toBitVec) := rfl

/-! ## Numbers made of bits -/

theorem isNaN_ofBits (negative : Bool) {magnitude : Nat} (h : magnitude ≤ infinityBits) :
    isNaN (ofBits negative magnitude) = false := by
  rw [Bool.eq_false_iff, ne_eq, isNaN_eq_true_iff, ofBits, toBitVec_toBits_ofBits]
  refine not_hasNaNFields_pack (unpack_ne_notANumber ?_)
  rw [hasNaNFields_iff]
  simp only [infinityBits, Nat.pow_eq, UInt64.toBitVec_ofNat', BitVec.toNat_ofNat] at h ⊢
  cases negative
  · simp only [Bool.false_eq_true, if_false]
    omega
  · simp only [if_true]
    omega

theorem nearestBits_le (num den : Nat) : nearestBits num den ≤ infinityBits := by
  unfold nearestBits
  split
  · exact Nat.zero_le _
  · dsimp only
    -- the bits of infinity are not to be computed
    generalize infinityBits = limit
    exact Nat.min_le_right _ _

theorem isNaN_ofRatio (negative : Bool) (num den : Nat) :
    isNaN (ofRatio negative num den) = false := by
  unfold ofRatio
  exact isNaN_ofBits _ (nearestBits_le _ _)

theorem isNaN_infinity (negative : Bool) : isNaN (infinity negative) = false := by
  unfold infinity
  exact isNaN_ofBits _ (Nat.le_refl _)

theorem isNaN_zero (negative : Bool) : isNaN (zero negative) = false := by
  unfold zero
  exact isNaN_ofBits _ (Nat.zero_le _)

theorem isNaN_ofDecimal (negative : Bool) (d : DecimalForm) :
    isNaN (ofDecimal negative d) = false := by
  unfold ofDecimal
  split
  · exact isNaN_zero _
  dsimp only
  split
  · exact isNaN_infinity _
  split
  · exact isNaN_zero _
  split
  · exact isNaN_ofRatio _ _ _
  · exact isNaN_ofRatio _ _ _

theorem isNaN_ofIntRatio? {a b : Int} {x : Float} (h : ofIntRatio? a b = some x) :
    isNaN x = false := by
  unfold ofIntRatio? at h
  dsimp only at h
  split at h
  · cases h
  · cases h
    exact isNaN_ofBits _ (nearestBits_le _ _)

end RecordCalc.Binary64

namespace RecordCalc.Calendar.DateTime

theorem isNaN_timestamp (t : DateTime) : Binary64.isNaN t.timestamp = false := by
  unfold timestamp
  cases h : Binary64.ofIntRatio? (t.instant - epoch) secondMicros with
  | none => decide
  | some x => exact Binary64.isNaN_ofIntRatio? h

end RecordCalc.Calendar.DateTime
