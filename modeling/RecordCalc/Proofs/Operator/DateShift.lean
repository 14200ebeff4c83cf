import RecordCalc.Proofs.Operator.WholeUnits

/-
  Shifting dates and taking their difference. A date that is shifted by months is in the month so
  many months later, and one that is shifted by seconds is so many seconds later; the difference of
  the two dates is the number that was added (`difference_of_shifted`), also when days are added and
  dates subtracted (`subtract_of_add`).
-/

namespace RecordCalc

open Calendar (Date DateTime dayMicros secondMicros)

namespace Value.DateLike

/-- A date as a datetime: its midnight. -/
def toDateTime : DateLike → DateTime
  | .date d => .ofDate d
  | .datetime t => t

theorem toDate?_toValue (d : DateLike) : d.toValue.toDate? = some d := by
  cases d <;> rfl

theorem toDateTime?_eq (v : Value) : v.toDateTime? = v.toDate?.map toDateTime := by
  unfold toDateTime?
  congr 1

theorem toDateTime?_toValue (d : DateLike) : d.toValue.toDateTime? = some d.toDateTime := by
  rw [toDateTime?_eq, toDate?_toValue, Option.map_some]

theorem dateLike?_toValue (d : DateLike) : Arithmetic.dateLike? d.toValue = some d := by
  cases d <;> rfl

theorem toValue_ne_null (d : DateLike) : d.toValue ≠ .null := by
  cases d <;> nofun

theorem toValue_injective {d d' : DateLike} (h : d.toValue = d'.toValue) : d = d' := by
  cases d <;> cases d' <;> cases h <;> rfl

/-- A date or nothing as a value is a date just when there is one. -/
theorem getD_toValue_eq {o : Option DateLike} {r : DateLike}
    (h : (o.map (·.toValue)).getD .null = r.toValue) : o = some r := by
  cases o with
  | none => exact absurd h.symm r.toValue_ne_null
  | some d => rw [toValue_injective h]

end Value.DateLike

open Value (DateLike)

/-! ## Shifts -/

namespace Calendar

theorem DateTime.instant_ofDate (d : Date) :
    (DateTime.ofDate d).instant = d.ordinal * dayMicros := by
  unfold DateTime.instant DateTime.shownMicros DateTime.ofDate Clock.midnight
  simp

end Calendar

namespace Arithmetic

theorem instant_addMicros_datetime {t : DateTime} {r : DateLike} {micros : Int}
    (h : addMicros (.datetime t) micros = some r) :
    r.toDateTime.instant = t.instant + micros := by
  obtain ⟨t', ht', rfl⟩ := Option.map_eq_some_iff.1 h
  exact (DateTime.addMicros_eq_some ht').1

/-- Whole days are added to a date alone as they are to its midnight. -/
theorem instant_addMicros_days {d r : DateLike} {days : Int}
    (h : addMicros d (days * dayMicros) = some r) :
    r.toDateTime.instant = d.toDateTime.instant + days * dayMicros := by
  cases d with
  | datetime t => exact instant_addMicros_datetime h
  | date d =>
    obtain ⟨d', hd', rfl⟩ := Option.map_eq_some_iff.1 h
    have hordinal := Date.ordinal_addDays hd'
    rw [Int.mul_fdiv_cancel _ (by decide)] at hordinal
    change (DateTime.ofDate d').instant = (DateTime.ofDate d).instant + days * dayMicros
    rw [Calendar.DateTime.instant_ofDate, Calendar.DateTime.instant_ofDate, hordinal, Int.add_mul]

end Arithmetic

namespace Dates

/-- A date that is shifted by units of fixed length is so many seconds later. -/
theorem instant_addSeconds {d r : DateLike} {unit : Nat} {amount : Int}
    (h : addSeconds d unit amount = some r) :
    r.toDateTime.instant = d.toDateTime.instant + amount * (unit * secondMicros : Nat) := by
  unfold addSeconds at h
  dsimp only at h
  have hmicros : amount * unit * secondMicros = amount * (unit * secondMicros : Nat) := by
    push_cast
    ring
  rw [hmicros] at h
  cases d with
  | datetime t => exact Arithmetic.instant_addMicros_datetime h
  | date d =>
    dsimp only at h
    split at h
    next hdays =>
      have hday : (unit * secondMicros : Nat) = unit / 86400 * dayMicros := by
        unfold dayMicros secondMicros
        omega
      rw [hday]
      rw [hday] at h
      push_cast at h ⊢
      rw [← mul_assoc] at h ⊢
      exact Arithmetic.instant_addMicros_days h
    · exact Arithmetic.instant_addMicros_datetime h

/-- A date that is shifted by months is in the month so many months later. -/
theorem monthNumber_addMonths {d r : DateLike} {months : Int} (h : addMonths d months = some r) :
    r.toDateTime.date.monthNumber = d.toDateTime.date.monthNumber + months := by
  cases d with
  | date d =>
    obtain ⟨d', hd', rfl⟩ := Option.map_eq_some_iff.1 h
    exact Date.monthNumber_addMonths hd'
  | datetime t =>
    obtain ⟨d', hd', rfl⟩ := Option.map_eq_some_iff.1 h
    exact Date.monthNumber_addMonths hd'

/-! ## The difference of a shifted date -/

/-- A whole number of units never counts as one more. -/
theorem not_roundsUp_mul {amount : Int} {seconds : Nat} (hseconds : 0 < seconds)
    (hspan : (amount * (seconds * secondMicros : Nat)).natAbs < 2 ^ 51 * secondMicros) :
    ¬ RoundsUp (amount * (seconds * secondMicros : Nat)) seconds := by
  intro h
  have hgap : untilNextUnit (amount * (seconds * secondMicros : Nat)) seconds =
      seconds * secondMicros := by
    unfold untilNextUnit
    rw [Int.mul_fmod_left, Int.sub_zero, Int.toNat_natCast]
  have hle := h.untilNextUnit_le hspan
  rw [hgap] at hle
  unfold secondMicros at hle
  omega

/-- The full units of a distance that is a number of units. -/
theorem fullUnits_of_mul {start finish : DateTime} {amount : Int} {seconds : Nat}
    (hseconds : 0 < seconds) (hbound : seconds < 2 ^ 53)
    (h : finish.instant = start.instant + amount * (seconds * secondMicros : Nat)) :
    fullUnits start finish seconds = some amount := by
  have hspan := natAbs_sub_instant_lt start finish
  have hunit : ((seconds * secondMicros : Nat) : Int) ≠ 0 :=
    Int.natCast_ne_zero.2 (Nat.mul_ne_zero hseconds.ne' (by decide))
  rw [fullUnits_eq start finish hseconds hbound]
  rw [h, add_sub_cancel_left] at hspan ⊢
  dsimp only
  rw [if_neg (not_roundsUp_mul hseconds hspan), Int.mul_fdiv_cancel _ hunit]

/-- A date some units later. -/
def shiftBy (d : DateLike) (amount : Int) : DateUnit → Option DateLike
  | .months => addMonths d amount
  | .years => addMonths d (amount * 12)
  | .fixed seconds => addSeconds d seconds amount

/-- A shift that gives a date has read a date and a unit. -/
theorem shiftBy_of_shifted {start unit : Value} {amount : Int} {r : DateLike}
    (h : shifted start (.int amount) unit = .ok r.toValue) :
    ∃ d u, start.toDate? = some d ∧ unitOf? unit = .ok (some u) ∧ shiftBy d amount u = some r := by
  unfold shifted at h
  cases hstart : start.toDate? with
  | none =>
    rw [hstart] at h
    exact absurd (Except.ok.inj h).symm r.toValue_ne_null
  | some d =>
    rw [hstart] at h
    cases hunit : unitOf? unit with
    | error f =>
      rw [hunit] at h
      cases h
    | ok u =>
      rw [hunit] at h
      have hresult := DateLike.getD_toValue_eq (Except.ok.inj h)
      cases u with
      | none => cases hresult
      | some u =>
        refine ⟨d, u, rfl, rfl, ?_⟩
        cases u <;> exact hresult

/-- The difference of a shifted date from the date is the number of units it was shifted by. -/
theorem difference_of_shifted {start unit : Value} {amount : Int} {r : DateLike}
    (h : shifted start (.int amount) unit = .ok r.toValue) :
    difference start r.toValue unit = .ok (.int amount) := by
  obtain ⟨d, u, hstart, hunit, hshift⟩ := shiftBy_of_shifted h
  have hdatetime : start.toDateTime? = some d.toDateTime := by
    rw [DateLike.toDateTime?_eq, hstart, Option.map_some]
  obtain ⟨a, b, hpair, hdate, hdate', hinstant, hinstant'⟩ :=
    datetimePair?_eq hdatetime r.toDateTime?_toValue
  unfold difference
  rw [hpair, hunit]
  cases u with
  | months =>
    have hmonth := monthNumber_addMonths hshift
    rw [← hdate, ← hdate'] at hmonth
    unfold Date.monthNumber at hmonth
    refine congrArg (Except.ok ∘ Value.int) ?_
    omega
  | years =>
    have hmonth := monthNumber_addMonths hshift
    rw [← hdate, ← hdate'] at hmonth
    unfold Date.monthNumber at hmonth
    obtain ⟨-, -, hlow, hhigh, -⟩ := a.date.valid
    obtain ⟨-, -, hlow', hhigh', -⟩ := b.date.valid
    refine congrArg (Except.ok ∘ Value.int) ?_
    omega
  | fixed seconds =>
    obtain ⟨hseconds, hbound⟩ := fixed_of_unitOf? hunit
    have hlater := instant_addSeconds hshift
    rw [← hinstant, ← hinstant'] at hlater
    change Except.ok (((fullUnits a b seconds).map Value.int).getD .null) = _
    rw [fullUnits_of_mul hseconds hbound hlater]
    rfl

end Dates

namespace Arithmetic

/-- The difference of a date that days were added to from the date is the number of days. -/
theorem subtract_of_add {d r : DateLike} {days : Int}
    (h : add d.toValue (.int days) = .ok r.toValue) :
    subtract r.toValue d.toValue = .ok (.int days) := by
  have hshift : addMicros d (days * dayMicros) = some r := by
    unfold add at h
    rw [d.dateLike?_toValue] at h
    exact DateLike.getD_toValue_eq (Except.ok.inj h)
  obtain ⟨b, a, hpair, -, -, hinstant', hinstant⟩ :=
    Dates.datetimePair?_eq r.toDateTime?_toValue d.toDateTime?_toValue
  have hlater := instant_addMicros_days hshift
  unfold subtract
  rw [r.dateLike?_toValue, d.dateLike?_toValue]
  change Except.ok (daysBetween r.toValue d.toValue) = _
  unfold daysBetween
  rw [hpair]
  dsimp only
  rw [hinstant, hinstant', hlater, add_sub_cancel_left, Int.mul_fdiv_cancel _ (by decide)]

end Arithmetic

/-- What is added to a date is its difference from the date: units by the shift, days by the sum. -/
theorem Dates.difference_undoes_shift :
    (∀ (start unit : Value) (amount : Int) (r : DateLike),
        shifted start (.int amount) unit = .ok r.toValue →
          difference start r.toValue unit = .ok (.int amount)) ∧
      ∀ (d r : DateLike) (days : Int), Arithmetic.add d.toValue (.int days) = .ok r.toValue →
        Arithmetic.subtract r.toValue d.toValue = .ok (.int days) :=
  ⟨fun _ _ _ _ => difference_of_shifted, fun _ _ _ => Arithmetic.subtract_of_add⟩

/-- Eleven months before the last day of January the month is shorter, and 29 days after it there is
a leap day; both shifts are undone. -/
theorem Dates.difference_undoes_shift_january :
    let january : Date := ⟨2024, 1, 31, by decide⟩
    let february : Date := ⟨2023, 2, 28, by decide⟩
    let noon : DateTime := ⟨january, ⟨dayMicros / 2, by decide⟩, some ⟨-5400000000, by decide⟩⟩
    let leapDay : DateTime := ⟨⟨2024, 2, 29, by decide⟩, noon.clock, noon.offset⟩
    shifted (.date january) (.int (-11)) (.text "m") = .ok (.date february) ∧
      difference (.date january) (.date february) (.text "m") = .ok (.int (-11)) ∧
      Arithmetic.add (.datetime noon) (.int 29) = .ok (.datetime leapDay) ∧
      Arithmetic.subtract (.datetime leapDay) (.datetime noon) = .ok (.int 29) := by
  intro january february noon leapDay
  have hunit : unitOf? (.text "m") = .ok (some .months) := congrArg Except.ok (by decide +kernel)
  have hmonths : january.addMonths (-11) = some february := by decide
  have hshift : shifted (.date january) (.int (-11)) (.text "m") = .ok (.date february) := by
    unfold shifted
    rw [hunit]
    change Except.ok ((((january.addMonths (-11)).map DateLike.date).map (·.toValue)).getD .null) =
      _
    rw [hmonths]
    rfl
  have hdays : noon.addMicros (29 * dayMicros) = some leapDay := by decide
  have hadd : Arithmetic.add (.datetime noon) (.int 29) = .ok (.datetime leapDay) := by
    change Except.ok ((((noon.addMicros (29 * dayMicros)).map DateLike.datetime).map
      (·.toValue)).getD .null) = _
    rw [hdays]
    rfl
  exact ⟨hshift, difference_undoes_shift.1 _ _ _ (.date february) hshift, hadd,
    difference_undoes_shift.2 (.datetime noon) (.datetime leapDay) 29 hadd⟩

end RecordCalc
