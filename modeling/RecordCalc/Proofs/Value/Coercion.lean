import RecordCalc.Proofs.Outcomes
import RecordCalc.Proofs.Value.Conversion

/-
  Conversion to a declared type. What it comes to has the type, or is nothing: in the strict form
  where the value has none of the type, and in both forms where it has no date. Converting that
  again changes nothing (`isCoerced_of_coerce`).
-/

namespace RecordCalc.Value

variable {v w : Value} {strict : Bool}

/-- The value is not-a-number, as a floating-point number or as a decimal. -/
def IsNaN : Value → Prop
  | number (.float x) => Binary64.isNaN x = true
  | number (.nan _) | decimal (.notANumber ..) => True
  | _ => False

/-- A number that converts to itself cannot be not-a-number. -/
theorem IsConverted.not_isNaN {n : Number} (h : IsConverted n) : ¬ (number n).IsNaN := by
  intro hnan
  cases n with
  | int n => exact hnan
  | float x =>
    have hnone : (number (.float x)).toNumber? = none := if_pos hnan
    rw [IsConverted, hnone] at h
    cases h
  | nan origin => cases h

/-- A value as the conversion to a type gives it: it has the type, or is nothing where the strict
form or a date may be; it converts to itself, and no number comes to not-a-number. -/
structure IsCoerced (target : ValueType) (strict : Bool) (w : Value) : Prop where
  typed : w.typeOf = target ∨ w = null ∧ (strict = true ∨ target = .date)
  fixed : w.coerce target strict = .ok w
  not_isNaN : target = .number → ¬ w.IsNaN

theorem coerce_of_toNumber? {n : Number} (h : v.toNumber? = some n) (strict : Bool) :
    v.coerce .number strict = .ok (number n) := by
  cases strict <;> simp [coerce, toNumber, h, ofNumber?]

theorem isCoerced_number {n : Number} (h : IsConverted n) (strict : Bool) :
    IsCoerced .number strict (number n) :=
  ⟨.inl rfl, coerce_of_toNumber? h strict, fun _ => h.not_isNaN⟩

theorem isCoerced_text (s : String) (strict : Bool) : IsCoerced .text strict (text s) :=
  ⟨.inl rfl, by cases strict <;> rfl, nofun⟩

theorem isCoerced_bool (b strict : Bool) : IsCoerced .boolean strict (bool b) :=
  ⟨.inl rfl, by cases strict <;> rfl, nofun⟩

theorem isCoerced_date (d : DateLike) (strict : Bool) : IsCoerced .date strict d.toValue := by
  cases d <;> exact ⟨.inl rfl, rfl, nofun⟩

theorem isCoerced_list (vs : List Value) (strict : Bool) : IsCoerced .array strict (list vs) :=
  ⟨.inl rfl, rfl, nofun⟩

/-- Nothing stands for what has no value of the type, but for an array. -/
theorem isCoerced_null {target : ValueType} (htarget : target ≠ .array)
    (hstrict : strict = true ∨ target = .date) : IsCoerced target strict null := by
  refine ⟨.inr ⟨rfl, hstrict⟩, ?_, fun _ => id⟩
  rcases hstrict with rfl | rfl
  · cases target <;> first | rfl | exact absurd rfl htarget
  · rfl

/-! ## What a conversion comes to -/

theorem isCoerced_of_number (h : v.coerce .number strict = .ok w) : IsCoerced .number strict w := by
  cases hnumber : v.toNumber? with
  | some n =>
    rw [coerce_of_toNumber? hnumber] at h
    cases h
    exact isCoerced_number (toNumber?_number hnumber) strict
  | none =>
    simp only [coerce, toNumber, hnumber] at h
    cases strict with
    | true =>
      cases h
      exact isCoerced_null (by decide) (.inl rfl)
    | false =>
      cases h
      exact isCoerced_number (isConverted_int 0) false

theorem isCoerced_of_text (h : v.coerce .text strict = .ok w) : IsCoerced .text strict w := by
  cases strict with
  | true =>
    obtain ⟨s?, -, hw⟩ := Outcomes.bind_eq_ok_iff.1 h
    cases s? with
    | some s =>
      cases hw
      exact isCoerced_text s true
    | none =>
      cases hw
      exact isCoerced_null (by decide) (.inl rfl)
  | false =>
    obtain ⟨s, -, hw⟩ := Outcomes.bind_eq_ok_iff.1 h
    cases hw
    exact isCoerced_text s false

theorem isCoerced_of_boolean (h : v.coerce .boolean strict = .ok w) :
    IsCoerced .boolean strict w := by
  cases strict with
  | true =>
    simp only [coerce, if_pos] at h
    cases hb : v.toBoolean? with
    | some b =>
      rw [hb] at h
      cases h
      exact isCoerced_bool b true
    | none =>
      rw [hb] at h
      cases h
      exact isCoerced_null (by decide) (.inl rfl)
  | false =>
    cases h
    exact isCoerced_bool v.toBoolean false

theorem isCoerced_of_date (h : v.coerce .date strict = .ok w) : IsCoerced .date strict w := by
  simp only [coerce] at h
  cases hd : v.toDate? with
  | some d =>
    rw [hd] at h
    cases h
    exact isCoerced_date d strict
  | none =>
    rw [hd] at h
    cases h
    exact isCoerced_null (by decide) (.inr rfl)

theorem isCoerced_of_array (h : v.coerce .array strict = .ok w) : IsCoerced .array strict w := by
  cases h
  exact isCoerced_list v.toItems strict

/-- What a value converts to has the target type, or is nothing, which only the strict form and
dates allow; to convert it again changes nothing. -/
theorem isCoerced_of_coerce {target : ValueType} (hany : target ≠ .any) (hnull : target ≠ .null)
    (h : v.coerce target strict = .ok w) : IsCoerced target strict w := by
  cases target with
  | number => exact isCoerced_of_number h
  | text => exact isCoerced_of_text h
  | boolean => exact isCoerced_of_boolean h
  | date => exact isCoerced_of_date h
  | array => exact isCoerced_of_array h
  | null => exact absurd rfl hnull
  | any => exact absurd rfl hany

/-- A text within single-item arrays is read as its number. -/
theorem isCoerced_of_coerce_nested :
    ValueType.number ≠ .any ∧ ValueType.number ≠ .null ∧
      (list [tuple [text " -1,234\n"]]).coerce .number true = .ok (int (-1234)) ∧
      IsCoerced .number true (int (-1234)) := by
  have hread : (list [tuple [text " -1,234\n"]]).toNumber? = some (.int (-1234)) := rfl
  have hnested := coerce_of_toNumber? hread true
  exact ⟨by decide, by decide, hnested, isCoerced_of_coerce (by decide) (by decide) hnested⟩

end RecordCalc.Value
