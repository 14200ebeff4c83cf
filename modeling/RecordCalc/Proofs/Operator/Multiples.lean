import Mathlib.Algebra.Group.Int.Defs
import RecordCalc.Proofs.Number.Rounding
import RecordCalc.Proofs.Operator.Limits

/-
  The multiples of a step next to an integer. The operators round the quotient to a floating-point
  number before they look for the integer next to it, so they give the multiple next to the integer
  just when the rounding does not move the quotient past an integer, and the multiple is in the
  range of floating-point numbers (`multiples_exact_iff`).
-/

namespace RecordCalc.Arithmetic

open Binary64 (rangeLimit rounded)

section
variable {n s r : Int}

/-! ## The multiples next to an integer -/

theorem isGreatest_multiple_iff (hs : 0 < s) :
    IsGreatest {m | s ∣ m ∧ m ≤ n} r ↔ r = ⌊(n / s : ℚ)⌋ * s := by
  have hpos : (0 : ℚ) < s := Int.cast_pos.2 hs
  have hle (k : Int) : k * s ≤ n ↔ k ≤ ⌊(n / s : ℚ)⌋ := by
    rw [Int.le_floor, le_div_iff₀ hpos]
    exact_mod_cast Iff.rfl
  have hgreatest : IsGreatest {m | s ∣ m ∧ m ≤ n} (⌊(n / s : ℚ)⌋ * s) := by
    refine ⟨⟨Int.dvd_mul_left _ _, (hle _).2 le_rfl⟩, ?_⟩
    rintro m ⟨⟨k, rfl⟩, hm⟩
    rw [Int.mul_comm s k] at hm ⊢
    exact Int.mul_le_mul_of_nonneg_right ((hle k).1 hm) hs.le
  exact ⟨fun h => h.unique hgreatest, fun h => h ▸ hgreatest⟩

theorem isLeast_multiple_iff (hs : 0 < s) :
    IsLeast {m | s ∣ m ∧ n ≤ m} r ↔ r = ⌈(n / s : ℚ)⌉ * s := by
  have hpos : (0 : ℚ) < s := Int.cast_pos.2 hs
  have hle (k : Int) : n ≤ k * s ↔ ⌈(n / s : ℚ)⌉ ≤ k := by
    rw [Int.ceil_le, div_le_iff₀ hpos]
    exact_mod_cast Iff.rfl
  have hleast : IsLeast {m | s ∣ m ∧ n ≤ m} (⌈(n / s : ℚ)⌉ * s) := by
    refine ⟨⟨Int.dvd_mul_left _ _, (hle _).2 le_rfl⟩, ?_⟩
    rintro m ⟨⟨k, rfl⟩, hm⟩
    rw [Int.mul_comm s k] at hm ⊢
    exact Int.mul_le_mul_of_nonneg_right ((hle k).1 hm) hs.le
  exact ⟨fun h => h.unique hleast, fun h => h ▸ hleast⟩

/-- An integer with a multiple next to it in the range has a quotient in the range. -/
theorem natAbs_lt_mul_rangeLimit {k : Int} (hs : 0 < s) (hrange : (k * s).natAbs < rangeLimit)
    (hnext : |(k - n / s : ℚ)| < 1) : n.natAbs < s.natAbs * rangeLimit := by
  have hpos : (0 : ℚ) < s := Int.cast_pos.2 hs
  have hclose : (k * s - n).natAbs < s.natAbs := by
    have hscale : ((k * s - n : Int) : ℚ) = (k - n / s) * s := by
      push_cast
      rw [sub_mul, div_mul_cancel₀ _ hpos.ne']
    have hlt : |((k * s - n : Int) : ℚ)| < s := by
      rw [hscale, abs_mul, abs_of_pos hpos]
      exact (mul_lt_mul_of_pos_right hnext hpos).trans_eq (one_mul _)
    zify
    rw [abs_of_pos hs]
    exact_mod_cast hlt
  obtain ⟨a, ha⟩ : ∃ a, s.natAbs = a + 1 := Nat.exists_eq_add_one_of_ne_zero (by omega)
  obtain ⟨b, hb⟩ : ∃ b, rangeLimit = b + 1 :=
    Nat.exists_eq_add_one_of_ne_zero Binary64.rangeLimit_pos.ne'
  have hproduct : (a + 1) * (b + 1) = a * b + a + b + 1 := by ring
  rw [ha, hb, hproduct]
  omega

/-! ## What the operators give -/

theorem settled_int_eq_ok_iff {k : Int} :
    settled (.int k) = .ok (.int r) ↔ k.natAbs < rangeLimit ∧ r = k := by
  rcases Nat.lt_or_ge k.natAbs rangeLimit with hrange | hfar
  · obtain ⟨x, hx⟩ := Number.exists_toFloat hrange
    have hsettled : settled (.int k) = .ok (.int k) := by
      rw [settled, hx]
      exact ite_self _
    rw [hsettled, and_iff_right hrange]
    exact ⟨fun h => (Number.int.inj (Value.number.inj (Except.ok.inj h))).symm, fun h => h ▸ rfl⟩
  · refine iff_of_false (fun h => ?_) fun h => absurd h.1 (Nat.not_lt.2 hfar)
    exact not_fails_iff.2 ⟨_, h⟩ ((fails_settled_int k).2 hfar)

/-- The multiple of an integer step is the step as often as the integer next to the rounded
quotient says, when there is such a quotient and the multiple is not too far. -/
theorem toMultiple_int {rounding : Number → Except Fault Int} {found : Float → Option Int}
    {next : ℚ → Int} (hrounding : Number.RoundsBy rounding found)
    (hfound : ∀ {x q}, Binary64.value? x = some q → found x = some (next q)) (hs : 0 < s) :
    toMultiple rounding (.int n) (.int s) = .ok (.int r) ↔
      n.natAbs < s.natAbs * rangeLimit ∧ (next (rounded (n / s)) * s).natAbs < rangeLimit ∧
        r = next (rounded (n / s)) * s := by
  have hnonzero : (Number.int s).isZero = false := by simpa [Number.isZero] using hs.ne'
  have hsteps : toMultiple rounding (.int n) (.int s) =
      ((Number.int n).ratio (.int s) >>= fun q =>
        rounding (.float q) >>= scaledStep (.int s)) :=
    if_neg (ne_true_of_eq_false hnonzero)
  rw [hsteps]
  rcases Nat.lt_or_ge n.natAbs (s.natAbs * rangeLimit) with hrange | hfar
  · obtain ⟨x, hx, hvalue⟩ := Binary64.ofIntRatio?_eq_some hs hrange
    have hratio : (Number.int n).ratio (.int s) = .ok x := by rw [Number.ratio, hx]
    rw [hratio, Outcomes.ok_bind, hrounding.eq_ok_iff.2 (hfound hvalue), Outcomes.ok_bind]
    exact settled_int_eq_ok_iff.trans (and_iff_right hrange).symm
  · have hfails : Fails ((Number.int n).ratio (.int s)) := (Number.fails_ratio hnonzero).2 hfar
    refine iff_of_false (fun h => ?_) fun h => absurd h.1 (Nat.not_lt.2 hfar)
    obtain ⟨q, hq, -⟩ := Outcomes.bind_eq_ok_iff.1 h
    exact not_fails_iff.2 ⟨q, hq⟩ hfails

/-- The multiple next to an integer is given just when it is in the range and the quotient has the
same integer next to it after the rounding. -/
theorem exists_toMultiple_iff {rounding : Number → Except Fault Int} {found : Float → Option Int}
    {next : ℚ → Int} (hrounding : Number.RoundsBy rounding found)
    (hfound : ∀ {x q}, Binary64.value? x = some q → found x = some (next q)) (hs : 0 < s)
    (hnext : |(next (n / s) - n / s : ℚ)| < 1) :
    (∃ r, toMultiple rounding (.int n) (.int s) = .ok (.int r) ∧ r = next (n / s) * s) ↔
      (next (n / s) * s).natAbs < rangeLimit ∧ next (rounded (n / s)) = next (n / s) := by
  simp only [toMultiple_int hrounding hfound hs]
  constructor
  · rintro ⟨r, ⟨-, hrange, hr⟩, rfl⟩
    rw [← hr] at hrange
    exact ⟨hrange, (Int.eq_of_mul_eq_mul_right hs.ne' hr).symm⟩
  · rintro ⟨hrange, hsame⟩
    rw [hsame]
    refine ⟨_, ⟨?_, hrange, rfl⟩, rfl⟩
    exact natAbs_lt_mul_rangeLimit hs hrange hnext

/-- The floor and the ceiling of an integer at an integer step are the multiples next to it just
when these are in the range of floating-point numbers and rounding the quotient does not change the
integers next to it. -/
theorem multiples_exact_iff (n : Int) {s : Int} (hs : 0 < s) :
    ((∃ r, floor (.int n) (.int s) = .ok (.int r) ∧ IsGreatest {m | s ∣ m ∧ m ≤ n} r) ↔
        (⌊(n / s : ℚ)⌋ * s).natAbs < rangeLimit ∧ ⌊rounded (n / s)⌋ = ⌊(n / s : ℚ)⌋) ∧
      ((∃ r, ceiling (.int n) (.int s) = .ok (.int r) ∧ IsLeast {m | s ∣ m ∧ n ≤ m} r) ↔
        (⌈(n / s : ℚ)⌉ * s).natAbs < rangeLimit ∧ ⌈rounded (n / s)⌉ = ⌈(n / s : ℚ)⌉) := by
  constructor
  · simp only [isGreatest_multiple_iff hs]
    refine exists_toMultiple_iff Number.roundsBy_floor Binary64.floor?_eq hs ?_
    rw [abs_sub_comm, ← Int.fract, abs_of_nonneg (Int.fract_nonneg _)]
    exact Int.fract_lt_one _
  · simp only [isLeast_multiple_iff hs]
    refine exists_toMultiple_iff Number.roundsBy_ceil Binary64.ceil?_eq hs ?_
    rw [abs_of_nonneg (sub_nonneg.2 (Int.le_ceil _)), sub_lt_iff_lt_add']
    exact Int.ceil_lt_add_one _

/-- The least integer of 53 bits. -/
theorem multiples_exact_ten :
    (0 : Int) < 10 ∧
      floor (.int (-9007199254740991)) (.int 10) = .ok (.int (-9007199254741000)) ∧
      IsGreatest {m : Int | 10 ∣ m ∧ m ≤ -9007199254740991} (-9007199254741000) ∧
      ceiling (.int (-9007199254740991)) (.int 10) = .ok (.int (-9007199254740990)) ∧
      IsLeast {m : Int | 10 ∣ m ∧ -9007199254740991 ≤ m} (-9007199254740990) := by
  have hten : (0 : Int) < 10 := by decide
  have hfloor : ⌊((-9007199254740991 : Int) / (10 : Int) : ℚ)⌋ = -900719925474100 := by
    rw [Int.floor_eq_iff]
    norm_num
  have hceil : ⌈((-9007199254740991 : Int) / (10 : Int) : ℚ)⌉ = -900719925474099 := by
    rw [Int.ceil_eq_iff]
    norm_num
  obtain ⟨hgreatest, hleast⟩ := multiples_exact_iff (-9007199254740991) hten
  obtain ⟨r, hr, hbelow⟩ := hgreatest.2
    ⟨by rw [hfloor]; decide +kernel, Binary64.floor_rounded (by decide) hten (by decide +kernel)⟩
  obtain ⟨t, ht, habove⟩ := hleast.2
    ⟨by rw [hceil]; decide +kernel, Binary64.ceil_rounded (by decide) hten (by decide +kernel)⟩
  obtain rfl : r = -9007199254741000 := by
    rw [(isGreatest_multiple_iff hten).1 hbelow, hfloor]
    rfl
  obtain rfl : t = -9007199254740990 := by
    rw [(isLeast_multiple_iff hten).1 habove, hceil]
    rfl
  exact ⟨hten, hr, hbelow, ht, habove⟩

/-- An integer of 54 bits is itself a multiple of one, and gets the even one before it. -/
theorem not_multiples_exact_odd :
    floor (.int (2 ^ 53 + 1)) (.int 1) = .ok (.int (2 ^ 53)) ∧
      ¬ IsGreatest {m : Int | 1 ∣ m ∧ m ≤ 2 ^ 53 + 1} (2 ^ 53) ∧
      ceiling (.int (2 ^ 53 + 1)) (.int 1) = .ok (.int (2 ^ 53)) ∧
      ¬ IsLeast {m : Int | 1 ∣ m ∧ 2 ^ 53 + 1 ≤ m} (2 ^ 53) := by
  refine ⟨rfl, fun h => ?_, rfl, fun h => ?_⟩
  · have hself : (2 ^ 53 + 1 : Int) ≤ 2 ^ 53 := h.2 ⟨Int.one_dvd _, le_rfl⟩
    omega
  · have hbelow : (2 ^ 53 + 1 : Int) ≤ 2 ^ 53 := h.1.2
    omega

end

end RecordCalc.Arithmetic
