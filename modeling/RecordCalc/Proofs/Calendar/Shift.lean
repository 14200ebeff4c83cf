import RecordCalc.Calendar.DateTime

/-
  Moving dates and datetimes. The date of an ordinal has that ordinal (`ordinal_ofOrdinal?`), so a
  date that is moved by days and a datetime that is moved by microseconds are as far apart as they
  were moved; a date that is moved by months is in the month so many months later.
-/

namespace RecordCalc.Calendar

namespace Date

theorem eq_of_ofYmd? {year month day : Nat} {d : Date} (h : ofYmd? year month day = some d) :
    d.year = year ∧ d.month = month ∧ d.day = day := by
  unfold ofYmd? at h
  split at h
  · cases h
    exact ⟨rfl, rfl, rfl⟩
  · cases h

/-! ## Days -/

/-- The months before the one that is found, and the day in it, make up the days. -/
theorem foldl_monthAndDay (lengths : List Nat) (month n total : Nat) :
    month ≤ (monthAndDay month lengths n).1 ∧
      (lengths.take ((monthAndDay month lengths n).1 - month)).foldl (· + ·) total +
        (monthAndDay month lengths n).2 = total + n := by
  induction lengths generalizing month n total with
  | nil => simp [monthAndDay]
  | cons length rest ih =>
    unfold monthAndDay
    split
    · simp
    · next hn =>
      obtain ⟨hmonth, hsum⟩ := ih (month + 1) (n - length) (total + length)
      generalize monthAndDay (month + 1) rest (n - length) = found at hmonth hsum ⊢
      obtain ⟨k, hk⟩ : ∃ k, found.1 - month = k + 1 := ⟨found.1 - (month + 1), by omega⟩
      have hk' : found.1 - (month + 1) = k := by omega
      rw [hk'] at hsum
      rw [hk, List.take_succ_cons, List.foldl_cons, hsum]
      omega

/-- A day is not before the year that is found for it. -/
theorem daysBeforeYear_yearOfOrdinal (n : Nat) : daysBeforeYear (yearOfOrdinal n) ≤ n := by
  unfold yearOfOrdinal
  dsimp only
  split
  · unfold daysBeforeYear
    omega
  · split
    · omega
    · omega

/-- The date of an ordinal has that ordinal. -/
theorem ordinal_ofOrdinal? {n : Int} {d : Date} (h : ofOrdinal? n = some d) :
    (d.ordinal : Int) = n := by
  unfold ofOrdinal? at h
  split at h
  next hn =>
    simp only [Bool.and_eq_true, decide_eq_true_eq] at hn
    dsimp only at h
    have hyear := daysBeforeYear_yearOfOrdinal n.toNat
    generalize yearOfOrdinal n.toNat = year at h hyear
    obtain ⟨hmonth, hdays⟩ :=
      foldl_monthAndDay (monthLengths (isLeapYear year)) 1 (n.toNat - daysBeforeYear year) 0
    generalize monthAndDay 1 (monthLengths (isLeapYear year)) (n.toNat - daysBeforeYear year) =
      found at h hmonth hdays
    obtain ⟨hy, hm, hd⟩ := eq_of_ofYmd? h
    unfold ordinal daysBeforeMonth
    rw [hy, hm, hd]
    omega
  · cases h

theorem ordinal_addDays {d d' : Date} {days : Int} (h : d.addDays days = some d') :
    (d'.ordinal : Int) = d.ordinal + days := ordinal_ofOrdinal? h

/-! ## Months -/

/-- The number of the month, January of year 0 being month 0. -/
def monthNumber (d : Date) : Int := 12 * d.year + (d.month - 1)

theorem monthNumber_addMonths {d d' : Date} {months : Int} (h : d.addMonths months = some d') :
    d'.monthNumber = d.monthNumber + months := by
  unfold addMonths at h
  dsimp only at h
  split at h
  next hyear =>
    simp only [Bool.and_eq_true, decide_eq_true_eq] at hyear
    obtain ⟨hy, hm, -⟩ := eq_of_ofYmd? h
    have hsplit := Int.fmod_add_mul_fdiv ((d.month : Int) - 1 + months) 12
    have hnonneg := Int.fmod_nonneg_of_pos ((d.month : Int) - 1 + months) (b := 12) (by decide)
    unfold monthNumber
    omega
  · cases h

end Date

namespace DateTime

theorem shownMicros_ofShownMicros? {micros : Int} {offset : Option Offset} {t : DateTime}
    (h : ofShownMicros? micros offset = some t) : t.shownMicros = micros ∧ t.offset = offset := by
  obtain ⟨d, hd, rfl⟩ := Option.map_eq_some_iff.1 h
  have hordinal := Date.ordinal_ofOrdinal? hd
  have hsplit := Int.fmod_add_mul_fdiv micros dayMicros
  have hnonneg := Int.fmod_nonneg_of_pos micros (b := dayMicros) (by decide)
  refine ⟨?_, rfl⟩
  unfold shownMicros
  dsimp only
  rw [hordinal, Int.toNat_of_nonneg hnonneg]
  rw [Int.mul_comm] at hsplit
  omega

theorem addMicros_eq_some {t t' : DateTime} {micros : Int} (h : t.addMicros micros = some t') :
    t'.instant = t.instant + micros ∧ t'.offset = t.offset := by
  obtain ⟨hshown, hoffset⟩ := shownMicros_ofShownMicros? h
  refine ⟨?_, hoffset⟩
  unfold instant
  rw [hshown, hoffset]
  omega

theorem instant_withOffset (t : DateTime) : t.withOffset.instant = t.instant := by
  unfold instant withOffset shownMicros
  cases t.offset <;> rfl

end DateTime

/-! ## The range of instants -/

theorem foldl_monthLengths_le :
    ∀ leap, ∀ k < 12, ((monthLengths leap).take k).foldl (· + ·) 0 ≤ 335 := by decide

theorem getD_monthLengths_le : ∀ leap, ∀ k < 12, (monthLengths leap).getD k 0 ≤ 31 := by decide

/-- The parts of a date are in their ranges. -/
theorem Date.bounds (d : Date) :
    d.year ≤ 9999 ∧ (1 ≤ d.month ∧ d.month ≤ 12) ∧ 1 ≤ d.day ∧ d.day ≤ 31 := by
  obtain ⟨-, hyear, hmonth, hmonth', hday, hday'⟩ := d.valid
  have hlength := getD_monthLengths_le (isLeapYear d.year) (d.month - 1) (by omega)
  unfold daysInMonth at hday'
  rw [if_neg (by omega)] at hday'
  exact ⟨hyear, ⟨hmonth, hmonth'⟩, hday, Nat.le_trans hday' hlength⟩

theorem Date.ordinal_lt (d : Date) : d.ordinal < 4000000 := by
  obtain ⟨hyear, ⟨hmonth, hmonth'⟩, -, hday⟩ := d.bounds
  have hbefore := foldl_monthLengths_le (isLeapYear d.year) (d.month - 1) (by omega)
  unfold Date.ordinal daysBeforeMonth daysBeforeYear
  omega

namespace DateTime

/-- An instant is within some four million days of the day of ordinal 0. -/
theorem natAbs_instant_lt (t : DateTime) : t.instant.natAbs < 4000002 * dayMicros := by
  have hordinal := t.date.ordinal_lt
  have hclock := t.clock.lt_day
  have hoffset : ((t.offset.map fun o : Offset => o.micros).getD 0).natAbs < dayMicros := by
    cases h : t.offset with
    | none => decide
    | some o => exact o.lt_day
  unfold instant shownMicros
  generalize (t.offset.map fun o : Offset => o.micros).getD 0 = offset at hoffset ⊢
  unfold dayMicros secondMicros at *
  omega

end DateTime

end RecordCalc.Calendar
