import Mathlib.Tactic.Linarith
import RecordCalc.Operator.Dates
import RecordCalc.Proofs.Calendar.Shift
import RecordCalc.Proofs.Number.FloorDivision

/-
  The difference of two dates in a unit of fixed length. The seconds between the instants are taken
  as a floating-point number, and the division of that number to the floor is exact; so the
  difference is the number of whole units, or one more when the nearest number of the seconds is
  already the next whole unit (`difference_fixed`). That takes a distance of more than five hundred
  years (`not_roundsUp_of_lt`).
-/

namespace RecordCalc.Dates

open Calendar (DateTime dayMicros secondMicros)
open Binary64 (value? signed signedValue nearestValue)

/-! ## Instants a little before a whole unit -/

/-- The microseconds that a span lacks to the next whole unit. -/
def untilNextUnit (span : Int) (seconds : Nat) : Nat :=
  ((seconds * secondMicros : Nat) - Int.fmod span (seconds * secondMicros : Nat)).toNat

/-- The number nearest the seconds of a span is the next whole unit: what is missing is no more than
half the unit of the number. -/
def RoundsUp (span : Int) (seconds : Nat) : Prop :=
  untilNextUnit span seconds * 2 ^ 53 ≤ secondMicros * 2 ^ (span.natAbs / secondMicros).log2

instance (span : Int) (seconds : Nat) : Decidable (RoundsUp span seconds) :=
  inferInstanceAs (Decidable (_ ≤ _))

section
variable {span : Int} {seconds : Nat}

theorem untilNextUnit_spec (span : Int) (hseconds : 0 < seconds) :
    0 < untilNextUnit span seconds ∧
      span + untilNextUnit span seconds =
        (Int.fdiv span (seconds * secondMicros : Nat) + 1) * (seconds * secondMicros : Nat) := by
  have hunit : (0 : Int) < (seconds * secondMicros : Nat) :=
    Int.natCast_pos.2 (Nat.mul_pos hseconds (by decide))
  have hlt := Int.fmod_lt_of_pos span hunit
  have hsplit := Int.fmod_add_mul_fdiv span (seconds * secondMicros : Nat)
  unfold untilNextUnit
  generalize ((seconds * secondMicros : Nat) : Int) = unit at hunit hlt hsplit ⊢
  refine ⟨by omega, ?_⟩
  rw [Int.toNat_of_nonneg (by omega), Int.add_mul, Int.one_mul, Int.mul_comm]
  omega

theorem log2_seconds_lt {k : Nat} (hk : 0 < k) (hspan : span.natAbs < 2 ^ k * secondMicros) :
    (span.natAbs / secondMicros).log2 < k := by
  rcases Nat.eq_zero_or_pos (span.natAbs / secondMicros) with hzero | hpos
  · rwa [hzero, Nat.log2_zero]
  · exact (Nat.log2_lt hpos.ne').2 (Nat.div_lt_of_lt_mul (by rwa [Nat.mul_comm]))

/-- A span rounds up by less than half the unit of the greatest number that it can be. -/
theorem RoundsUp.untilNextUnit_le {k : Nat} (h : RoundsUp span seconds)
    (hspan : span.natAbs < 2 ^ (k + 1) * secondMicros) :
    untilNextUnit span seconds * 2 ^ 53 ≤ secondMicros * 2 ^ k :=
  Nat.le_trans h (Nat.mul_le_mul_left _ (Binary64.two_pow_le
    (Nat.le_of_lt_succ (log2_seconds_lt (Nat.succ_pos k) hspan))))

/-- Below some five hundred years no microsecond is lost. -/
theorem not_roundsUp_of_lt (hseconds : 0 < seconds) (hspan : span.natAbs < 2 ^ 34 * secondMicros) :
    ¬ RoundsUp span seconds := by
  intro h
  obtain ⟨hgap, -⟩ := untilNextUnit_spec span hseconds
  have hle := h.untilNextUnit_le hspan
  unfold secondMicros at hle
  omega

/-! ## The seconds as a number -/

/-- The number nearest the seconds of a span. -/
def nearestSeconds (span : Int) : ℚ :=
  if span < 0 then -nearestValue span.natAbs secondMicros
  else nearestValue span.natAbs secondMicros

theorem nearestSeconds_zero : nearestSeconds 0 = 0 := by
  unfold nearestSeconds
  rw [if_neg (lt_irrefl 0), Int.natAbs_zero, Binary64.nearestValue_zero (by decide)]

theorem value?_seconds (hspan : span.natAbs < 2 ^ 51 * secondMicros) :
    ∃ x, Binary64.ofIntRatio? span secondMicros = some x ∧
      value? x = some (nearestSeconds span) := by
  refine Binary64.ofIntRatio?_eq_nearest (by decide) ?_
  have hlimit := Nat.mul_le_mul_left secondMicros (Binary64.mul_le_rangeLimit (k := 0) (by decide))
  rw [Int.natAbs_natCast]
  omega

section
variable {whole : Int} {gap : Nat}

/-- Below zero the nearest number comes up to the next unit when it comes down to it without the
sign. -/
theorem nearestSeconds_bounds_of_neg (hneg : span < 0) (hseconds : 0 < seconds)
    (hsmall : span.natAbs < 2 ^ 52 * secondMicros) (hgap : 0 < gap)
    (hwhole : whole * (seconds * secondMicros : Nat) ≤ span)
    (hnext : span + gap = (whole + 1) * (seconds * secondMicros : Nat)) :
    (whole * seconds : ℚ) ≤ nearestSeconds span ∧ nearestSeconds span ≤ (whole + 1) * seconds ∧
      ((whole + 1) * seconds ≤ nearestSeconds span ↔
        gap * 2 ^ 53 ≤ secondMicros * 2 ^ (span.natAbs / secondMicros).log2) := by
  have hnum : span.natAbs ≠ 0 := Int.natAbs_ne_zero.2 hneg.ne
  have hunit : (0 : Int) < (seconds * secondMicros : Nat) :=
    Int.natCast_pos.2 (Nat.mul_pos hseconds (by decide))
  obtain ⟨j, rfl⟩ : ∃ j : Nat, whole = -(j + 1 : Nat) := by
    have hbelow : whole < 0 := neg_of_mul_neg_right (by linarith) hunit.le
    exact ⟨(-whole - 1).toNat, by omega⟩
  have habs : |span| = -span := abs_of_neg hneg
  have habove : span.natAbs = j * seconds * secondMicros + gap := by
    zify at hnext ⊢
    linarith
  have hbelow : span.natAbs ≤ (j + 1) * seconds * secondMicros := by
    zify at hwhole ⊢
    linarith
  have hlow := Binary64.natCast_le_nearestValue hnum hsmall (Nat.le.intro habove.symm)
  have hhigh := Binary64.nearestValue_le_natCast hnum hsmall hbelow
  unfold nearestSeconds
  rw [if_pos hneg,
    ← Binary64.nearestValue_le_natCast_iff_gap hgap hnum (by decide) hsmall habove]
  push_cast at hlow hhigh ⊢
  refine ⟨?_, ?_, ?_⟩
  · linarith
  · linarith
  · constructor <;> intro h <;> linarith

theorem nearestSeconds_bounds_of_pos (hpos : 0 < span) (hseconds : 0 < seconds)
    (hsmall : span.natAbs < 2 ^ 52 * secondMicros) (hgap : 0 < gap)
    (hwhole : whole * (seconds * secondMicros : Nat) ≤ span)
    (hnext : span + gap = (whole + 1) * (seconds * secondMicros : Nat)) :
    (whole * seconds : ℚ) ≤ nearestSeconds span ∧ nearestSeconds span ≤ (whole + 1) * seconds ∧
      ((whole + 1) * seconds ≤ nearestSeconds span ↔
        gap * 2 ^ 53 ≤ secondMicros * 2 ^ (span.natAbs / secondMicros).log2) := by
  have hnum : span.natAbs ≠ 0 := Int.natAbs_ne_zero.2 hpos.ne'
  have hunit : (0 : Int) < (seconds * secondMicros : Nat) :=
    Int.natCast_pos.2 (Nat.mul_pos hseconds (by decide))
  obtain ⟨j, rfl⟩ : ∃ j : Nat, whole = j := by
    have habove : 0 < whole + 1 := pos_of_mul_pos_left (by omega) hunit.le
    exact ⟨whole.toNat, by omega⟩
  have habs : |span| = span := abs_of_pos hpos
  have habove : (j + 1) * seconds * secondMicros = span.natAbs + gap := by
    zify at hnext ⊢
    linarith
  have hbelow : j * seconds * secondMicros ≤ span.natAbs := by
    zify at hwhole ⊢
    linarith
  have hlow := Binary64.natCast_le_nearestValue hnum hsmall hbelow
  have hhigh := Binary64.nearestValue_le_natCast hnum hsmall (Nat.le.intro habove.symm)
  unfold nearestSeconds
  rw [if_neg hpos.not_gt,
    ← Binary64.natCast_le_nearestValue_iff_gap hgap hnum (by decide) hsmall habove]
  push_cast at hlow hhigh ⊢
  exact ⟨hlow, hhigh, Iff.rfl⟩

end

/-- The number nearest the seconds is between the whole units about the span, and it is the next
one just when the span rounds up. -/
theorem nearestSeconds_bounds (hseconds : 0 < seconds)
    (hspan : span.natAbs < 2 ^ 51 * secondMicros) :
    let whole := Int.fdiv span (seconds * secondMicros : Nat)
    (whole * seconds : ℚ) ≤ nearestSeconds span ∧ nearestSeconds span ≤ (whole + 1) * seconds ∧
      ((whole + 1) * seconds ≤ nearestSeconds span ↔ RoundsUp span seconds) := by
  obtain ⟨hgap, hnext⟩ := untilNextUnit_spec span hseconds
  have hsmall : span.natAbs < 2 ^ 52 * secondMicros := by omega
  have hwhole : Int.fdiv span (seconds * secondMicros : Nat) * (seconds * secondMicros : Nat) ≤
      span := by
    have hunit : (0 : Int) < (seconds * secondMicros : Nat) :=
      Int.natCast_pos.2 (Nat.mul_pos hseconds (by decide))
    have hrest := Int.fmod_nonneg_of_pos span hunit
    have hsplit := Int.fmod_add_mul_fdiv span (seconds * secondMicros : Nat)
    linarith
  rcases Int.lt_trichotomy span 0 with hneg | rfl | hpos
  · exact nearestSeconds_bounds_of_neg hneg hseconds hsmall hgap hwhole hnext
  · have hround : ¬ RoundsUp 0 seconds := not_roundsUp_of_lt hseconds (by decide)
    rw [nearestSeconds_zero, Int.zero_fdiv]
    simp [hround, hseconds.ne']
  · exact nearestSeconds_bounds_of_pos hpos hseconds hsmall hgap hwhole hnext

/-! ## Whole units -/

/-- The whole units of the number nearest the seconds. -/
theorem floor_nearestSeconds (hseconds : 0 < seconds)
    (hspan : span.natAbs < 2 ^ 51 * secondMicros) :
    ⌊nearestSeconds span / seconds⌋ =
      let whole := Int.fdiv span (seconds * secondMicros : Nat)
      if RoundsUp span seconds then whole + 1 else whole := by
  obtain ⟨hlow, hhigh, hreach⟩ := nearestSeconds_bounds hseconds hspan
  have hpos : (0 : ℚ) < seconds := Nat.cast_pos.2 hseconds
  rw [Int.floor_eq_iff, le_div_iff₀ hpos, div_lt_iff₀ hpos]
  dsimp only
  generalize Int.fdiv span (seconds * secondMicros : Nat) = whole at hlow hhigh hreach ⊢
  split
  next hround =>
    push_cast
    exact ⟨hreach.2 hround, by linarith⟩
  next hround => exact ⟨hlow, not_le.1 (mt hreach.1 hround)⟩

theorem abs_nearestSeconds_lt (hspan : span.natAbs < 2 ^ 51 * secondMicros) :
    |nearestSeconds span| < 2 ^ 52 := by
  rcases eq_or_ne span 0 with rfl | hzero
  · rw [nearestSeconds_zero]
    norm_num
  have hle : nearestValue span.natAbs secondMicros ≤ (2 ^ 51 : Nat) :=
    Binary64.nearestValue_le_natCast (Int.natAbs_ne_zero.2 hzero) (by omega) hspan.le
  have hnonneg : 0 ≤ nearestValue span.natAbs secondMicros :=
    mul_nonneg (Nat.cast_nonneg _) (Binary64.two_zpow_pos _).le
  have habs : |nearestSeconds span| = nearestValue span.natAbs secondMicros := by
    unfold nearestSeconds
    split
    · rw [abs_neg, abs_of_nonneg hnonneg]
    · rw [abs_of_nonneg hnonneg]
  rw [habs]
  push_cast at hle
  linarith

theorem natAbs_sub_instant_lt (start finish : DateTime) :
    (finish.instant - start.instant).natAbs < 2 ^ 51 * secondMicros := by
  have hstart := start.natAbs_instant_lt
  have hfinish := finish.natAbs_instant_lt
  unfold dayMicros at hstart hfinish
  omega

/-- The full units between two instants: the whole ones, or the next when the span rounds up. -/
theorem fullUnits_eq (start finish : DateTime) (hseconds : 0 < seconds)
    (hbound : seconds < 2 ^ 53) :
    fullUnits start finish seconds =
      let span := finish.instant - start.instant
      let whole := Int.fdiv span (seconds * secondMicros : Nat)
      some (if RoundsUp span seconds then whole + 1 else whole) := by
  have hspan := natAbs_sub_instant_lt start finish
  unfold fullUnits
  generalize finish.instant - start.instant = span at hspan ⊢
  obtain ⟨x, hx, hvalue⟩ := value?_seconds hspan
  obtain ⟨y, hy, hvalue'⟩ := Binary64.ofInt?_eq_some (n := seconds) (by simpa using hbound)
  rw [Int.cast_natCast] at hvalue'
  rw [hx, hy]
  dsimp only [Option.bind_eq_bind, Option.bind_some]
  rw [Binary64.trunc?_floorDiv hvalue hvalue' hseconds (abs_nearestSeconds_lt hspan),
    floor_nearestSeconds hseconds hspan]

end

/-! ## The difference of two dates -/

/-- The lengths of the units. -/
theorem fixed_of_ofWord? {word : String} {seconds : Nat}
    (h : DateUnit.ofWord? word = some (.fixed seconds)) : 0 < seconds ∧ seconds < 2 ^ 53 := by
  have hunits : ∀ entry ∈ fixedUnits, 0 < entry.2 ∧ entry.2 < 2 ^ 53 := by decide
  unfold DateUnit.ofWord? at h
  split at h
  · cases h
  · split at h
    · cases h
    · obtain ⟨entry, hfind, hentry⟩ := Option.map_eq_some_iff.1 h
      cases hentry
      exact hunits entry (List.mem_of_find?_eq_some hfind)

theorem fixed_of_unitOf? {unit : Value} {seconds : Nat}
    (h : unitOf? unit = .ok (some (.fixed seconds))) : 0 < seconds ∧ seconds < 2 ^ 53 := by
  unfold unitOf? at h
  cases htext : unit.toText with
  | error f => simp [htext, bind, Except.bind] at h
  | ok s =>
    rw [htext] at h
    exact fixed_of_ofWord? (Except.ok.inj h)

theorem toDateTime?_date (d : Calendar.Date) :
    (Value.date d).toDateTime? = some (.ofDate d) := rfl

theorem toDateTime?_datetime (t : DateTime) : (Value.datetime t).toDateTime? = some t := rfl

/-- Two datetimes are compared at their instants; a missing offset does not change the date that is
shown. -/
theorem datetimePair?_eq {v w : Value} {a b : DateTime} (hv : v.toDateTime? = some a)
    (hw : w.toDateTime? = some b) :
    ∃ a' b', Value.datetimePair? v w = some (a', b') ∧ a'.date = a.date ∧ b'.date = b.date ∧
      a'.instant = a.instant ∧ b'.instant = b.instant := by
  unfold Value.datetimePair?
  rw [hv, hw]
  dsimp only [Option.bind_eq_bind, Option.bind_some]
  split
  · exact ⟨a, b, rfl, rfl, rfl, rfl, rfl⟩
  · exact ⟨_, _, rfl, rfl, rfl, a.instant_withOffset, b.instant_withOffset⟩

/-- The difference in a unit of fixed length is the number of whole units between the instants, or
the next number when the span rounds up to it. -/
theorem difference_fixed {start finish unit : Value} {a b : DateTime} {seconds : Nat}
    (hstart : start.toDateTime? = some a) (hfinish : finish.toDateTime? = some b)
    (hunit : unitOf? unit = .ok (some (.fixed seconds))) :
    difference start finish unit =
      let span := b.instant - a.instant
      let whole := Int.fdiv span (seconds * secondMicros : Nat)
      .ok (.int (if RoundsUp span seconds then whole + 1 else whole)) := by
  obtain ⟨hseconds, hbound⟩ := fixed_of_unitOf? hunit
  obtain ⟨a', b', hpair, -, -, ha, hb⟩ := datetimePair?_eq hstart hfinish
  unfold difference
  rw [hpair, hunit]
  change Except.ok (((fullUnits a' b' seconds).map Value.int).getD .null) = _
  rw [fullUnits_eq a' b' hseconds hbound, ha, hb]
  rfl

/-- The difference is the number of whole units just when the span does not round up, and one more
when it does. -/
theorem difference_eq_whole_iff {start finish unit : Value} {a b : DateTime} {seconds : Nat}
    (hstart : start.toDateTime? = some a) (hfinish : finish.toDateTime? = some b)
    (hunit : unitOf? unit = .ok (some (.fixed seconds))) :
    let span := b.instant - a.instant
    let whole := Int.fdiv span (seconds * secondMicros : Nat)
    (difference start finish unit = .ok (.int whole) ↔ ¬ RoundsUp span seconds) ∧
      (RoundsUp span seconds → difference start finish unit = .ok (.int (whole + 1))) := by
  rw [difference_fixed hstart hfinish hunit]
  dsimp only
  generalize Int.fdiv (b.instant - a.instant) (seconds * secondMicros : Nat) = whole
  split
  next hround =>
    have hne : Except.ok (ε := Fault) (Value.int (whole + 1)) ≠ .ok (.int whole) := by
      intro h
      have hint := Number.int.inj (Value.number.inj (Except.ok.inj h))
      omega
    exact ⟨iff_of_false hne (not_not.2 hround), fun _ => rfl⟩
  next hround => exact ⟨iff_of_true rfl hround, fun h => absurd h hround⟩

theorem unitOf?_days : unitOf? (.text "days") = .ok (some (.fixed 86400)) :=
  congrArg Except.ok (by decide +kernel)

/-- From the last day of January to the last microsecond of the last day of February, on a clock
that is half an hour and five hours behind. -/
theorem difference_eq_whole_leapYear :
    let start : DateTime := .ofDate ⟨2024, 1, 31, by decide⟩
    let finish : DateTime :=
      ⟨⟨2024, 2, 29, by decide⟩, ⟨dayMicros - 1, by decide⟩,
        some ⟨-19800 * secondMicros, by decide⟩⟩
    (Value.date start.date).toDateTime? = some start ∧
      (Value.datetime finish).toDateTime? = some finish ∧
      unitOf? (.text "days") = .ok (some (.fixed 86400)) ∧
      ¬ RoundsUp (finish.instant - start.instant) 86400 ∧
      difference (.date start.date) (.datetime finish) (.text "days") = .ok (.int 30) := by
  intro start finish
  have hround : ¬ RoundsUp (finish.instant - start.instant) 86400 := by decide +kernel
  have hwhole : Int.fdiv (finish.instant - start.instant) (86400 * secondMicros : Nat) = 30 := by
    decide +kernel
  have hstart := toDateTime?_date start.date
  have hfinish := toDateTime?_datetime finish
  refine ⟨hstart, hfinish, unitOf?_days, hround, ?_⟩
  rw [← hwhole]
  exact (difference_eq_whole_iff hstart hfinish unitOf?_days).1.2 hround

/-- The first moment of the calendar. -/
def firstMoment : DateTime := .ofDate ⟨1, 1, 1, by decide⟩

/-- The last moment of the calendar. -/
def lastMoment : DateTime := ⟨⟨9999, 12, 31, by decide⟩, ⟨dayMicros - 1, by decide⟩, none⟩

/-- The last moment is a microsecond before a whole day after the first, and counts as that day. -/
theorem not_difference_eq_whole_days :
    Int.fdiv (lastMoment.instant - firstMoment.instant) (86400 * secondMicros : Nat) = 3652058 ∧
      difference (.datetime firstMoment) (.datetime lastMoment) (.text "days") =
        .ok (.int 3652059) := by
  refine ⟨by decide, ?_⟩
  rw [difference_fixed (toDateTime?_datetime _) (toDateTime?_datetime _) unitOf?_days]
  dsimp only
  have hround : RoundsUp (lastMoment.instant - firstMoment.instant) 86400 := by decide
  rw [if_pos hround]
  rfl

end RecordCalc.Dates
