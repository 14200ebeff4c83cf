import Mathlib.Algebra.Group.Nat.Defs
import Mathlib.Logic.Basic
import RecordCalc.Number.Decimal
import RecordCalc.Proofs.Value.Writing

/-
  The multiple of a unit nearest an integer, a half going away from zero (`IsNearestMultiple`).
  There is just one (`isNearestMultiple_iff`), and a decimal is rounded to it unless the multiple
  has more digits than the precision (`roundAt_natural`).
-/

namespace RecordCalc

/-- The multiple of a unit that is nearest an integer: no other is nearer, and of two that are
equally near it is the one farther from zero. -/
structure IsNearestMultiple (unit n r : Int) : Prop where
  dvd : unit ∣ r
  nearest : ∀ m, unit ∣ m → (r - n).natAbs ≤ (m - n).natAbs
  away : ∀ m, unit ∣ m → (m - n).natAbs = (r - n).natAbs → m.natAbs ≤ r.natAbs

/-- How many units there are in the nearest multiple, without its sign. -/
def unitsNear (unit n : Nat) : Nat := (2 * n + unit) / (2 * unit)

section
variable {unit : Nat} {n r r' : Int}

/-- Other multiples are a unit away at least. -/
theorem eq_or_unit_le {m : Int} (hr : (unit : Int) ∣ r) (hm : (unit : Int) ∣ m) :
    m = r ∨ unit ≤ (m - r).natAbs := by
  rcases eq_or_ne m r with rfl | hne
  · exact .inl rfl
  · have hdvd : unit ∣ (m - r).natAbs := Int.ofNat_dvd_left.1 (Int.dvd_sub hm hr)
    exact .inr (Nat.le_of_dvd (by omega) hdvd)

theorem le_unitsNear_iff {units n : Nat} (hunit : 0 < unit) :
    units ≤ unitsNear unit n ↔ units * (2 * unit) ≤ 2 * n + unit :=
  Nat.le_div_iff_mul_le (by omega)

theorem unitsNear_eq_zero_iff {n : Nat} (hunit : 0 < unit) :
    unitsNear unit n = 0 ↔ 2 * n < unit := by
  have h : 1 ≤ unitsNear unit n ↔ 1 * (2 * unit) ≤ 2 * n + unit := le_unitsNear_iff hunit
  omega

theorem two_mul_unitsNear (hunit : 0 < unit) (n : Nat) :
    2 * (unitsNear unit n * unit) ≤ 2 * n + unit ∧
      2 * n < 2 * (unitsNear unit n * unit) + unit := by
  have hsplit := Nat.div_add_mod (2 * n + unit) (2 * unit)
  have hrest := Nat.mod_lt (2 * n + unit) (y := 2 * unit) (by omega)
  have hquotient : 2 * unit * unitsNear unit n = 2 * (unitsNear unit n * unit) := by ac_rfl
  unfold unitsNear at hquotient ⊢
  omega

theorem signed_cases (n : Int) (m : Nat) :
    0 ≤ n ∧ Binary64.signed (n < 0) m = m ∨ n < 0 ∧ Binary64.signed (n < 0) m = -m := by
  unfold Binary64.signed
  by_cases hneg : n < 0
  · exact .inr ⟨hneg, if_pos (decide_eq_true hneg)⟩
  · exact .inl ⟨by omega, if_neg (by simpa using hneg)⟩

/-- The units nearest the magnitude, with the sign of the integer. -/
theorem isNearestMultiple_signed (hunit : 0 < unit) (n : Int) :
    IsNearestMultiple unit n (Binary64.signed (n < 0) (unitsNear unit n.natAbs * unit)) := by
  obtain ⟨hle, hlt⟩ := two_mul_unitsNear hunit n.natAbs
  have hdvd : (unit : Int) ∣ (unitsNear unit n.natAbs * unit : Nat) :=
    Int.natCast_dvd_natCast.2 (Nat.dvd_mul_left _ _)
  have hsigned := signed_cases n (unitsNear unit n.natAbs * unit)
  -- What is left is linear: half a unit to the nearest multiple, a whole one between two.
  generalize unitsNear unit n.natAbs * unit = size at hle hlt hdvd hsigned ⊢
  generalize Binary64.signed (n < 0) size = r at hsigned ⊢
  have hr : (unit : Int) ∣ r := by
    rcases hsigned with ⟨-, rfl⟩ | ⟨-, rfl⟩
    · exact hdvd
    · exact Int.dvd_neg.2 hdvd
  refine ⟨hr, fun m hm => ?_, fun m hm htie => ?_⟩
  · have haway := eq_or_unit_le hr hm
    omega
  · have haway := eq_or_unit_le hr hm
    omega

/-- There is only one. -/
theorem IsNearestMultiple.unique (h : IsNearestMultiple unit n r)
    (h' : IsNearestMultiple unit n r') : r' = r := by
  have hdistance := Nat.le_antisymm (h.nearest r' h'.dvd) (h'.nearest r h.dvd)
  have hzero := h.nearest 0 (Int.dvd_zero _)
  have hsize := Nat.le_antisymm (h.away r' h'.dvd hdistance.symm) (h'.away r h.dvd hdistance)
  omega

/-- The nearest multiple, in signs and units. -/
theorem isNearestMultiple_iff (hunit : 0 < unit) :
    IsNearestMultiple unit n r ↔
      r = Binary64.signed (n < 0) (unitsNear unit n.natAbs * unit) :=
  ⟨fun h => (isNearestMultiple_signed hunit n).unique h,
    fun h => h ▸ isNearestMultiple_signed hunit n⟩

/-- A multiple is its own nearest one. -/
theorem isNearestMultiple_self_iff : IsNearestMultiple unit n n ↔ (unit : Int) ∣ n := by
  refine ⟨fun h => h.dvd, fun h => ⟨h, fun m _ => by omega, fun m _ htie => ?_⟩⟩
  omega

end

/-! ## Decimals -/

namespace Decimal

open Binary64 (decimalLength lt_decimalLength_iff)

variable {n k : Nat}

/-- An integer with fewer digits than zeros in the unit is less than half a unit. -/
theorem unitsNear_of_short (h : decimalLength n < k) : unitsNear (10 ^ k) n = 0 := by
  have hpos : 0 < decimalLength n := Nat.length_toDigits_pos
  obtain ⟨j, rfl⟩ : ∃ j, k = j + 1 := Nat.exists_eq_add_one_of_ne_zero (by omega)
  have hlt : n < Nat.pow 10 j :=
    Nat.not_le.1 (mt (lt_decimalLength_iff (by omega)).2 (by omega))
  have hpow : 10 ^ (j + 1) = Nat.pow 10 j * 10 := rfl
  rw [unitsNear_eq_zero_iff (Nat.pow_pos (by decide)), hpow]
  omega

/-- An integer with so many digits before the place is too many units. -/
theorem unitsNear_of_long (h : precision + k < decimalLength n) :
    10 ^ precision ≤ unitsNear (10 ^ k) n := by
  have hle : Nat.pow 10 (precision + k) ≤ n :=
    (lt_decimalLength_iff (Nat.add_pos_left (by decide) k)).1 h
  have hpow : Nat.pow 10 (precision + k) = 10 ^ precision * 10 ^ k := Nat.pow_add 10 precision k
  rw [le_unitsNear_iff (Nat.pow_pos (by decide)), Nat.mul_left_comm, ← hpow]
  exact Nat.le_add_right_of_le (Nat.mul_le_mul_left 2 hle)

/-- An integer is rounded to a place before the point, unless the multiple has more digits than the
precision. -/
theorem roundAt_natural (n k : Nat) :
    roundAt n 0 k =
      if unitsNear (10 ^ k) n < 10 ^ precision then some (unitsNear (10 ^ k) n) else none := by
  have hpow : 0 < 10 ^ k := Nat.pow_pos (by decide)
  have hprecision : 0 < 10 ^ precision := Nat.pow_pos (by decide)
  -- The first three cases are decided by the number of digits, before anything is divided.
  unfold roundAt adjusted
  split
  next hn =>
    rw [(unitsNear_eq_zero_iff hpow).2 (by omega), if_pos hprecision]
  split
  next hshort => rw [unitsNear_of_short (by omega), if_pos hprecision]
  split
  next hlong => rw [if_neg (Nat.not_lt.2 (unitsNear_of_long (by omega)))]
  next =>
    have hunits : (if (k : Int) ≤ 0 then n * Nat.pow 10 (0 - (k : Int)).toNat
        else (2 * n + Nat.pow 10 ((k : Int) - 0).toNat) /
          (2 * Nat.pow 10 ((k : Int) - 0).toNat)) = unitsNear (10 ^ k) n := by
      split
      next hk =>
        obtain rfl : k = 0 := by omega
        change n * 1 = (2 * n + 1) / 2
        omega
      next => rfl
    have hdigits : precision < decimalLength (unitsNear (10 ^ k) n) ↔
        10 ^ precision ≤ unitsNear (10 ^ k) n := lt_decimalLength_iff (by decide)
    dsimp only
    rw [hunits]
    by_cases hfits : unitsNear (10 ^ k) n < 10 ^ precision
    · rw [if_pos hfits, if_neg (mt hdigits.1 (Nat.not_le.2 hfits))]
    · rw [if_neg hfits, if_pos (hdigits.2 (Nat.not_lt.1 hfits))]

theorem integer_natural (negative : Bool) (n k : Nat) :
    integer negative n k = Binary64.signed negative (n * 10 ^ k) := by
  unfold integer
  rw [if_pos (Int.natCast_nonneg k), Int.toNat_natCast]
  rfl

end Decimal

end RecordCalc
