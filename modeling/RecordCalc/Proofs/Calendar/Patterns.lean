import Mathlib.Tactic.IntervalCases
import RecordCalc.Calendar.Reader
import RecordCalc.Calendar.Written
import RecordCalc.Proofs.Calendar.Shift
import RecordCalc.Proofs.Text.Digits

/-
  Written dates and the three patterns. The ISO form of a date is read by the pattern with hyphens
  as that date (`Date.read?_iso`); one that goes on after the day is read by none of them
  (`readYearFirst?_hyphen_longer` and the lemmas after it).
-/

namespace RecordCalc.Calendar

open Binary64 (padded)
open Text (length_padded isDigit_of_mem_padded ofDigitChars_padded)

/-! ## Digits -/

theorem toList_padded_two {n : Nat} (h : n < 100) :
    (padded n 2).toList = [Nat.digitChar (n / 10), Nat.digitChar (n % 10)] := by
  rw [Text.toList_padded]
  rcases Nat.lt_or_ge n 10 with hone | htwo
  · rw [Nat.toDigits_of_lt_base hone, Nat.div_eq_of_lt hone, Nat.mod_eq_of_lt hone]
    rfl
  · have happend := Nat.toDigits_append_toDigits (b := 10) (n := n / 10) (d := n % 10) (by decide)
      (by omega) (by omega)
    rw [Nat.div_add_mod] at happend
    rw [← happend, Nat.toDigits_of_lt_base (by omega), Nat.toDigits_of_lt_base (by omega)]
    rfl

/-- A year is written with four digits. -/
theorem exists_toList_padded_year {n : Nat} (h : n < 10000) :
    ∃ a b c d, (padded n 4).toList = [a, b, c, d] ∧ ∀ x ∈ [a, b, c, d], x.isDigit = true := by
  have hlength : (padded n 4).toList.length = 4 := length_padded (by decide) h
  obtain ⟨a, b, c, d, hchars⟩ := List.length_eq_four.1 hlength
  exact ⟨a, b, c, d, hchars, fun x hx => isDigit_of_mem_padded (hchars ▸ hx)⟩

/-! ## Dates -/

theorem readYear_padded {n : Nat} (h : n < 10000) (rest : List Char) :
    readYear ((padded n 4).toList ++ rest) = some (n, rest) := by
  obtain ⟨a, b, c, d, hchars, hdigits⟩ := exists_toList_padded_year h
  have hvalue : Text.digitsValue [a, b, c, d] = n := by
    rw [Text.digitsValue_eq hdigits, ← hchars, ofDigitChars_padded]
  have hall : [a, b, c, d].all Text.isDigit = true :=
    List.all_eq_true.2 fun x hx => Text.isDigit_of_ascii (hdigits x hx)
  rw [hchars]
  change (if [a, b, c, d].all Text.isDigit then some (Text.digitsValue [a, b, c, d], rest)
    else none) = _
  rw [if_pos hall, hvalue]

theorem followedBy_of_head {readings : List (Nat × List Char)} {n : Nat} {c : Char}
    {rest : List Char} (h : readings.head? = some (n, c :: rest)) :
    followedBy c readings = some (n, rest) := by
  obtain ⟨others, rfl⟩ := List.head?_eq_some_iff.1 h
  simp [followedBy]

theorem head?_monthReadings {n : Nat} (hlow : 1 ≤ n) (hhigh : n ≤ 12) (rest : List Char) :
    (monthReadings ((padded n 2).toList ++ rest)).head? = some (n, rest) := by
  rw [toList_padded_two (by omega)]
  interval_cases n <;> rfl

theorem head?_dayReadings {n : Nat} (hlow : 1 ≤ n) (hhigh : n ≤ 31) :
    (dayReadings (padded n 2).toList).head? = some (n, []) := by
  have hdays : ∀ n < 32, 1 ≤ n →
      (dayReadings [Nat.digitChar (n / 10), Nat.digitChar (n % 10)]).head? = some (n, []) := by
    decide
  rw [toList_padded_two (by omega)]
  exact hdays n (by omega) hlow

theorem ofYmd?_self (d : Date) : Date.ofYmd? d.year d.month d.day = some d := dif_pos d.valid

theorem Date.toList_iso (d : Date) :
    d.iso.toList = (padded d.year 4).toList ++ '-' :: ((padded d.month 2).toList ++
      '-' :: (padded d.day 2).toList) := by
  unfold Date.iso
  simp

/-- The ISO form of a date is read as that date. -/
theorem Date.read?_iso (d : Date) : Date.read? d.iso = some d := by
  obtain ⟨hyear, ⟨hmonth, hmonth'⟩, hday, hday'⟩ := d.bounds
  have hfirst : readYearFirst? '-' d.iso.toList = some d := by
    obtain ⟨others, hreadings⟩ := List.head?_eq_some_iff.1 (head?_dayReadings hday hday')
    unfold readYearFirst?
    rw [d.toList_iso, readYear_padded (by omega), followedBy_of_head rfl]
    dsimp only [Option.bind_eq_bind, Option.bind_some]
    rw [followedBy_of_head (head?_monthReadings hmonth hmonth' _)]
    dsimp only [Option.bind_some]
    rw [hreadings]
    exact ofYmd?_self d
  unfold Date.read?
  dsimp only
  rw [hfirst]
  rfl

/-! ## Texts that go on after the date -/

theorem length_le_of_mem_loneDay {cs rest : List Char} {n : Nat} (h : (n, rest) ∈ loneDay cs) :
    cs.length ≤ rest.length + 1 := by
  unfold loneDay at h
  split at h
  · split at h
    · cases List.mem_singleton.1 h
      simp
    · cases h
  · cases h

/-- A day takes two characters at most. -/
theorem length_le_of_mem_dayReadings {cs rest : List Char} {n : Nat}
    (h : (n, rest) ∈ dayReadings cs) : cs.length ≤ rest.length + 2 := by
  unfold dayReadings at h
  split at h
  · rcases List.mem_cons.1 h with h | h
    · cases h
      simp
    · exact Nat.le_succ_of_le (length_le_of_mem_loneDay h)
  · rcases List.mem_cons.1 h with h | h
    · cases h
      simp
    · exact Nat.le_succ_of_le (length_le_of_mem_loneDay h)
  · exact Nat.succ_le_succ (length_le_of_mem_loneDay h)
  · exact Nat.succ_le_succ (length_le_of_mem_loneDay h)
  · split at h
    · rcases List.mem_cons.1 h with h | h
      · cases h
        simp
      · exact Nat.le_succ_of_le (length_le_of_mem_loneDay h)
    · exact Nat.le_succ_of_le (length_le_of_mem_loneDay h)
  · exact Nat.le_succ_of_le (length_le_of_mem_loneDay h)

/-- A month takes one character or two. -/
theorem eq_drop_of_mem_monthReadings {cs rest : List Char} {n : Nat}
    (h : (n, rest) ∈ monthReadings cs) : rest = cs.drop 1 ∨ rest = cs.drop 2 := by
  unfold monthReadings at h
  split at h <;> grind

theorem followedBy_eq_none {readings : List (Nat × List Char)} {c : Char}
    (h : ∀ r ∈ readings, r.2.head? ≠ some c) : followedBy c readings = none := by
  unfold followedBy
  rw [List.findSome?_eq_none_iff]
  rintro ⟨n, rest⟩ hr
  have hhead := h _ hr
  split
  next heq =>
    cases heq
    exact if_neg (by simpa using hhead)
  · rfl

/-- A date that is followed by something, as the patterns see it. -/
theorem readYearFirst?_hyphen_longer (d : Date) (c : Char) (rest : List Char) :
    readYearFirst? '-' (d.iso.toList ++ c :: rest) = none := by
  obtain ⟨hyear, ⟨hmonth, hmonth'⟩, hday, hday'⟩ := d.bounds
  have hlength : (padded d.day 2).toList.length = 2 := length_padded (by decide) (by omega)
  unfold readYearFirst?
  rw [d.toList_iso, List.append_assoc, readYear_padded (by omega), List.cons_append,
    followedBy_of_head rfl]
  dsimp only [Option.bind_eq_bind, Option.bind_some]
  rw [List.append_assoc, List.cons_append,
    followedBy_of_head (head?_monthReadings hmonth hmonth' _)]
  dsimp only [Option.bind_some]
  split
  next day _ hreadings =>
    have hle := length_le_of_mem_dayReadings (hreadings ▸ List.mem_cons_self)
    simp [hlength] at hle
  · rfl

theorem readYearFirst?_slash (d : Date) (rest : List Char) :
    readYearFirst? '/' (d.iso.toList ++ rest) = none := by
  obtain ⟨hyear, -⟩ := d.bounds
  unfold readYearFirst?
  rw [d.toList_iso, List.append_assoc, readYear_padded (by omega), List.cons_append,
    followedBy_eq_none (by simp)]
  rfl

/-- A year is no month: two characters on there is a digit. -/
theorem readMonthFirst?_iso (d : Date) (rest : List Char) :
    readMonthFirst? (d.iso.toList ++ rest) = none := by
  obtain ⟨hyear, -⟩ := d.bounds
  obtain ⟨a, b, c, e, hchars, hdigits⟩ := exists_toList_padded_year (n := d.year) (by omega)
  have hslash : ∀ x ∈ [a, b, c, e], x ≠ '/' := by
    rintro x hx rfl
    exact absurd (hdigits _ hx) (by decide)
  have hnone : followedBy '/' (monthReadings (d.iso.toList ++ rest)) = none := by
    refine followedBy_eq_none ?_
    rintro ⟨n, after⟩ hr
    rw [d.toList_iso, hchars] at hr
    rcases eq_drop_of_mem_monthReadings hr with rfl | rfl
    · exact fun hb => hslash b (by simp) (Option.some.inj hb)
    · exact fun hc => hslash c (by simp) (Option.some.inj hc)
  unfold readMonthFirst?
  rw [hnone]
  rfl

/-- A text that goes on after a date is in none of the three patterns. -/
theorem Date.read?_longer (d : Date) {s : String} {c : Char} {rest : List Char}
    (h : s.toList = d.iso.toList ++ c :: rest) : Date.read? s = none := by
  unfold Date.read?
  dsimp only
  rw [h, readYearFirst?_hyphen_longer, readMonthFirst?_iso, readYearFirst?_slash]
  rfl

end RecordCalc.Calendar
