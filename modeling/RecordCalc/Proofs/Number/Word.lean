import Mathlib
import RecordCalc.Proofs.Value.Writing
import RecordCalc.Proofs.Number.NotANumber

/-
  The word of a finite floating-point number. A mantissa and an exponent are canonical when they are
  those of a word (`parts_eq_iff`); the operations of the core library, which unpack words and pack
  them again, keep them (`unpack_toModel`, `parts_pack`). The value of a finite number is a rational
  number (`value?`).
-/

namespace RecordCalc.Binary64

open Float.Model (UnpackedFloat)
open Float.Model.UnpackedFloat

/-! ## Canonical mantissas and exponents -/

/-- The mantissa has 53 bits, or fewer at the least exponent. -/
structure IsCanonical (m : Nat) (e : Int) : Prop where
  mantissa_lt : m < 2 ^ 53
  le_exponent : -1074 ≤ e
  exponent_le : e ≤ 971
  normal : 2 ^ 52 ≤ m ∨ e = -1074

/-- The part of the word that the sign takes. -/
def signBits (negative : Bool) : Nat := if negative then 2 ^ 63 else 0

/-- The rest of the word. -/
def magnitudeBits (m : Nat) (e : Int) : Nat := (e + 1074).toNat * 2 ^ 52 + m

section
variable {x : Float} {negative : Bool} {m : Nat} {e : Int}

theorem signBits_eq (negative : Bool) :
    (negative = true ∧ signBits negative = 2 ^ 63) ∨
      (negative = false ∧ signBits negative = 0) := by
  cases negative
  · exact .inr ⟨rfl, rfl⟩
  · exact .inl ⟨rfl, rfl⟩

namespace IsCanonical

/-- The fields of the word: a mantissa of less than 53 bits has the exponent field zero, and the
highest bit of the others is left out. -/
theorem fields (h : IsCanonical m e) :
    (m < 2 ^ 52 ∧ e = -1074 ∧ magnitudeBits m e = m) ∨
      (2 ^ 52 ≤ m ∧ m < 2 ^ 53 ∧ ∃ k : Nat, (k : Int) = e + 1075 ∧ 0 < k ∧ k < 2047 ∧
        magnitudeBits m e = k * 2 ^ 52 + (m - 2 ^ 52)) := by
  obtain ⟨hm, hlow, hhigh, hnormal⟩ := h
  unfold magnitudeBits
  by_cases hsmall : m < 2 ^ 52
  · obtain rfl : e = -1074 := hnormal.resolve_left (by omega)
    exact .inl ⟨hsmall, rfl, by simp⟩
  · exact .inr ⟨by omega, hm, (e + 1075).toNat, by omega, by omega, by omega, by omega⟩

theorem magnitudeBits_lt (h : IsCanonical m e) : magnitudeBits m e < 2047 * 2 ^ 52 := by
  rcases h.fields with ⟨hm, -, hbits⟩ | ⟨-, hm, k, -, -, hk, hbits⟩
  · omega
  · omega

end IsCanonical

/-- Every magnitude below that of infinity is the one of a mantissa and an exponent. -/
theorem exists_isCanonical {n : Nat} (h : n < 2047 * 2 ^ 52) :
    ∃ m e, IsCanonical m e ∧ magnitudeBits m e = n := by
  by_cases hsmall : n < 2 ^ 52
  · exact ⟨n, -1074, ⟨by omega, by omega, by omega, .inr rfl⟩, by simp [magnitudeBits]⟩
  · refine ⟨n % 2 ^ 52 + 2 ^ 52, (n / 2 ^ 52 : Nat) - 1075, ⟨by omega, by omega, by omega,
      .inl (by omega)⟩, ?_⟩
    unfold magnitudeBits
    omega

/-- The sign is the highest bit. -/
theorem signBits_decide {n : Nat} (h : n < 2 ^ 64) :
    signBits (decide (2 ^ 63 ≤ n)) = n / 2 ^ 63 * 2 ^ 63 := by
  unfold signBits
  by_cases hn : 2 ^ 63 ≤ n
  · rw [decide_eq_true hn, if_pos rfl]
    omega
  · rw [decide_eq_false hn, if_neg nofun]
    omega

/-- The parts of a number are canonical, and they are those of its word. -/
theorem toNat_toBits_of_parts (h : parts x = .finite negative m e) :
    IsCanonical m e ∧ x.toBits.toNat = magnitudeBits m e + signBits negative := by
  have hword : x.toBits.toNat < 2 ^ 64 := x.toBits.toNat_lt
  unfold parts at h
  simp only [Nat.pow_eq] at h
  generalize x.toBits.toNat = n at hword h ⊢
  have hsign := signBits_decide hword
  split at h
  · split at h <;> cases h
  split at h
  · cases h
    refine ⟨⟨by omega, by omega, by omega, .inr rfl⟩, ?_⟩
    rw [hsign, magnitudeBits]
    omega
  · cases h
    refine ⟨⟨by omega, by omega, by omega, .inl (by omega)⟩, ?_⟩
    rw [hsign, magnitudeBits]
    omega

theorem parts_of_toNat (h : IsCanonical m e)
    (hword : x.toBits.toNat = magnitudeBits m e + signBits negative) :
    parts x = .finite negative m e := by
  have hlt := h.magnitudeBits_lt
  have hsign := signBits_eq negative
  unfold parts
  simp only [Nat.pow_eq]
  generalize x.toBits.toNat = n at hword
  have hdecide : decide (2 ^ 63 ≤ n) = negative := by
    rcases hsign with ⟨rfl, hsign⟩ | ⟨rfl, hsign⟩
    · exact decide_eq_true (by omega)
    · exact decide_eq_false (by omega)
  rw [hdecide]
  rcases h.fields with ⟨hm, rfl, hbits⟩ | ⟨hlow, hm, k, hk, hpos, hhigh, hbits⟩
  · have hzero : n / 2 ^ 52 % 2048 = 0 := by omega
    have hfraction : n % 2 ^ 52 = m := by omega
    rw [hzero, hfraction]
    simp
  · have hbiased : n / 2 ^ 52 % 2048 = k := by omega
    have hfraction : n % 2 ^ 52 + 2 ^ 52 = m := by omega
    rw [hbiased, hfraction, if_neg (by omega), if_neg (by omega), hk]
    congr 1
    omega

/-- The parts of a number are read off its word and determine it. -/
theorem parts_eq_iff :
    parts x = .finite negative m e ↔
      IsCanonical m e ∧ x.toBits.toNat = magnitudeBits m e + signBits negative :=
  ⟨toNat_toBits_of_parts, fun h => parts_of_toNat h.1 h.2⟩

/-! ## Unpacking and packing -/

/-- The sign as the core library has it. -/
def signOf (negative : Bool) : Sign := if negative then .negative else .positive

/-- A mantissa and an exponent unpacked: a zero has a sign alone. -/
def unpacked (negative : Bool) (m : Nat) (e : Int) : UnpackedFloat :=
  if h : m = 0 then .zero (signOf negative)
  else .finite (signOf negative) m e (Nat.pos_of_ne_zero h)

theorem toNat_append_of {w v : Nat} (a : BitVec w) (b : BitVec v) :
    (a ++ b).toNat = a.toNat * 2 ^ v + b.toNat := by
  rw [BitVec.toNat_append, ← Nat.shiftLeft_add_eq_or_of_lt b.isLt, Nat.shiftLeft_eq]

theorem finite_eq_unpacked (h : 0 < m) :
    .finite (signOf negative) m e h = unpacked negative m e := by
  rw [unpacked, dif_neg (Nat.ne_of_gt h)]

theorem ofBitVec_unpackSign {b : BitVec 64} {n : Nat} (hn : n < 2 ^ 63)
    (hb : b.toNat = n + signBits negative) :
    Sign.ofBitVec (@unpackSign .binary64 b) = signOf negative := by
  have hsign : (@unpackSign .binary64 b).toNat = b.toNat / 2 ^ 63 % 2 := by
    simp [unpackSign, BitVec.extractLsb_toNat, Nat.shiftRight_eq_div_pow]
  have hzero : @unpackSign .binary64 b = 0#1 ↔ b.toNat / 2 ^ 63 % 2 = 0 := by
    rw [← BitVec.toNat_inj, hsign]
    rfl
  unfold Sign.ofBitVec
  rcases signBits_eq negative with ⟨rfl, hbits⟩ | ⟨rfl, hbits⟩
  · rw [if_neg (mt hzero.1 (by omega))]
    rfl
  · rw [if_pos (hzero.2 (by omega))]
    rfl

theorem unpack_of_toNat {b : BitVec 64} (h : IsCanonical m e)
    (hb : b.toNat = magnitudeBits m e + signBits negative) :
    unpack .binary64 b = unpacked negative m e := by
  have hsign := ofBitVec_unpackSign (Nat.lt_trans h.magnitudeBits_lt (by decide)) hb
  have hexponent := toNat_unpackExponent b
  have hmantissa := toNat_unpackMantissa b
  have hbias : (Float.Model.Format.exponentBias .binary64 : Nat) = 1023 := rfl
  have hinfinite : @unpackExponent .binary64 b = -1#11 ↔ b.toNat / 2 ^ 52 % 2048 = 2047 := by
    rw [← BitVec.toNat_inj, hexponent]
    rfl
  have hsmall : @unpackExponent .binary64 b = 0#11 ↔ b.toNat / 2 ^ 52 % 2048 = 0 := by
    rw [← BitVec.toNat_inj, hexponent]
    rfl
  have hnone : @unpackMantissa .binary64 b = 0#52 ↔ b.toNat % 2 ^ 52 = 0 := by
    rw [← BitVec.toNat_inj, hmantissa]
    rfl
  rw [Nat.pow_eq] at hexponent hmantissa
  have hhead := signBits_eq negative
  unfold unpack
  simp only [hsign, finite_eq_unpacked, hbias, toNat_append_of, hmantissa, hexponent]
  rcases h.fields with ⟨hm, rfl, hbits⟩ | ⟨hlow, hm, k, hk, hpos, hlt, hbits⟩
  · have hfraction : b.toNat % 2 ^ 52 = m := by omega
    have hbiased : b.toNat / 2 ^ 52 % 2048 = 0 := by omega
    rw [if_neg (mt hinfinite.1 (by omega)), if_pos (hsmall.2 hbiased), hbiased, hfraction]
    split
    next hzero =>
      have hm : m = 0 := by
        rw [← hfraction]
        exact hnone.1 hzero
      rw [unpacked, dif_pos hm]
    · rfl
  · have hfraction : (1#1).toNat * 2 ^ 52 + b.toNat % 2 ^ 52 = m := by
      rw [show (1#1).toNat = 1 from rfl]
      omega
    have hbiased : b.toNat / 2 ^ 52 % 2048 = k := by omega
    rw [if_neg (mt hinfinite.1 (by omega)), if_neg (mt hsmall.1 (by omega)), hbiased, hfraction,
      hk]
    congr 1
    omega

/-- A word that is not the one of not-a-number is packed again from what was unpacked. -/
theorem toNat_pack (h : IsCanonical m e) :
    (pack .binary64 (unpacked negative m e)).toNat = magnitudeBits m e + signBits negative := by
  have hlt := h.magnitudeBits_lt
  have hsign := signBits_eq negative
  have hword : (BitVec.ofNat 64 (magnitudeBits m e + signBits negative)).toNat =
      magnitudeBits m e + signBits negative := by
    rw [BitVec.toNat_ofNat]
    omega
  generalize BitVec.ofNat 64 (magnitudeBits m e + signBits negative) = b at hword
  have hnumber : ¬ HasNaNFields b := by
    rw [hasNaNFields_iff, Nat.pow_eq, hword]
    omega
  have hvalid : Float.Model.Format.Valid .binary64 b :=
    ⟨fun hexponent hmantissa => absurd ⟨hexponent, hmantissa⟩ hnumber⟩
  rw [← unpack_of_toNat h hword, pack_unpack_of_valid hvalid, hword]

/-- What the operations get of a number. -/
theorem unpack_toModel (h : parts x = .finite negative m e) :
    x.toModel.unpack = unpacked negative m e := by
  obtain ⟨hcanonical, hword⟩ := toNat_toBits_of_parts h
  exact unpack_of_toNat hcanonical hword

/-- What they give is the number of those parts. -/
theorem parts_pack (h : IsCanonical m e) :
    parts (.ofModel (.pack (unpacked negative m e))) = .finite negative m e :=
  parts_of_toNat h (toNat_pack h)

theorem toNat_toBits_ofBits (negative : Bool) {n : Nat} (h : n < infinityBits) :
    (ofBits negative n).toBits.toNat = n + signBits negative := by
  obtain ⟨m, e, hcanonical, rfl⟩ := exists_isCanonical h
  have hword : (UInt64.ofNat (magnitudeBits m e + signBits negative)).toBitVec.toNat =
      magnitudeBits m e + signBits negative := by
    have hlt := hcanonical.magnitudeBits_lt
    rw [UInt64.toBitVec_ofNat', BitVec.toNat_ofNat]
    rcases signBits_eq negative with ⟨-, hsign⟩ | ⟨-, hsign⟩ <;> omega
  have hunpack := unpack_of_toNat hcanonical hword
  calc (ofBits negative (magnitudeBits m e)).toBits.toNat
    _ = (pack .binary64 (unpacked negative m e)).toNat := by rw [← hunpack]; rfl
    _ = magnitudeBits m e + signBits negative := toNat_pack hcanonical

/-! ## The value of a finite number -/

/-- The rational number that finite parts stand for. -/
def signedValue (negative : Bool) (m : Nat) (e : Int) : ℚ := (signed negative m : ℚ) * 2 ^ e

theorem signedValue_false (m : Nat) (e : Int) : signedValue false m e = (m : ℚ) * 2 ^ e := by
  simp [signedValue, signed]

theorem signedValue_true (m : Nat) (e : Int) : signedValue true m e = -((m : ℚ) * 2 ^ e) := by
  simp [signedValue, signed]

/-- A mantissa of twice the size stands for the same with the exponent before. -/
theorem signedValue_two_mul (negative : Bool) (m : Nat) (e : Int) :
    signedValue negative (2 * m) e = signedValue negative m (e + 1) := by
  have hsucc : (2 : ℚ) ^ (e + 1) = 2 ^ e * 2 := zpow_add_one₀ (by decide) e
  cases negative
  · rw [signedValue_false, signedValue_false, hsucc]
    push_cast
    ring
  · rw [signedValue_true, signedValue_true, hsucc]
    push_cast
    ring

/-- The value of finite parts. -/
def Parts.value? : Parts → Option ℚ
  | .finite negative m e => some (signedValue negative m e)
  | _ => none

/-- The value of a finite number. -/
def value? (x : Float) : Option ℚ := (parts x).value?

theorem value?_of_parts (h : parts x = .finite negative m e) :
    value? x = some (signedValue negative m e) := by
  rw [value?, h]
  rfl

theorem parts_of_value? {q : ℚ} (h : value? x = some q) :
    ∃ negative m e, parts x = .finite negative m e ∧ IsCanonical m e ∧
      q = signedValue negative m e := by
  unfold value? at h
  cases hparts : parts x with
  | infinite _ | notANumber => simp [hparts, Parts.value?] at h
  | finite negative m e =>
    rw [hparts] at h
    exact ⟨negative, m, e, rfl, (toNat_toBits_of_parts hparts).1, (Option.some.inj h).symm⟩

/-- The value by the word. A mantissa that was rounded up to 54 bits stands for half of it with the
next exponent. -/
theorem value?_of_toNat (hm : m ≤ 2 ^ 53) (he : -1074 ≤ e) (hnormal : 2 ^ 52 ≤ m ∨ e = -1074)
    (hrange : magnitudeBits m e < infinityBits)
    (hword : x.toBits.toNat = magnitudeBits m e + signBits negative) :
    value? x = some (signedValue negative m e) := by
  have hexponent : e ≤ 971 := by
    rw [infinityBits, Nat.pow_eq, magnitudeBits] at hrange
    omega
  rcases Nat.lt_or_eq_of_le hm with hlt | rfl
  · exact value?_of_parts (parts_of_toNat ⟨hlt, he, hexponent, hnormal⟩ hword)
  · have hnext : magnitudeBits (2 ^ 52) (e + 1) = magnitudeBits (2 ^ 53) e := by
      unfold magnitudeBits
      omega
    have hcanonical : IsCanonical (2 ^ 52) (e + 1) := by
      refine ⟨by decide, by omega, ?_, .inl (Nat.le_refl _)⟩
      rw [← hnext, infinityBits, Nat.pow_eq, magnitudeBits] at hrange
      omega
    rw [← hnext] at hword
    exact (value?_of_parts (parts_of_toNat hcanonical hword)).trans
      (congrArg some (signedValue_two_mul negative (2 ^ 52) e).symm)

end

end RecordCalc.Binary64
