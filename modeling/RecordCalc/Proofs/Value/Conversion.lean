import RecordCalc.Proofs.Number.NotANumber
import RecordCalc.Value.Convert

/-
  The conversion of values to numbers. Its results are never not-a-number, so a number that comes of
  it is its own conversion (`toNumber?_number`): to convert an operand and then apply a rule that
  converts its arguments is to apply the rule alone.
-/

namespace RecordCalc.Value

/-- The number is its own conversion. -/
def IsConverted (n : Number) : Prop := (number n).toNumber? = some n

theorem isConverted_int (n : Int) : IsConverted (.int n) := rfl

theorem isConverted_float {x : Float} (h : Binary64.isNaN x = false) : IsConverted (.float x) := by
  simp [IsConverted, toNumber?, h]

theorem isConverted_decimal {d : Decimal} {n : Number} (h : d.toNumber? = some n) :
    IsConverted n := by
  cases d with
  | finite negative c e =>
    simp only [Decimal.toNumber?] at h
    split at h <;> obtain rfl := Option.some.inj h
    · exact isConverted_int _
    · exact isConverted_float (Binary64.isNaN_ofDecimal _ _)
  | infinite negative =>
    simp only [Decimal.toNumber?, Option.some.injEq] at h
    subst h
    exact isConverted_float (Binary64.isNaN_infinity _)
  | notANumber => cases h

theorem isConverted_ofNumeral (n : Numeral) (negative : Bool) :
    IsConverted (Number.ofNumeral n negative) := by
  unfold Number.ofNumeral
  split
  · exact isConverted_int _
  · exact isConverted_float (Binary64.isNaN_ofDecimal _ _)

theorem isConverted_read {s : String} {n : Number} (h : Number.read? s = some n) :
    IsConverted n := by
  obtain ⟨⟨numeral, negative⟩, -, rfl⟩ := Option.map_eq_some_iff.1 h
  exact isConverted_ofNumeral numeral negative

mutual

theorem toNumber?_number {v : Value} {n : Number} (h : v.toNumber? = some n) :
    IsConverted n := by
  cases v with
  | bool b =>
    cases h
    exact isConverted_int _
  | number m =>
    cases m with
    | int m =>
      cases h
      exact isConverted_int _
    | float x =>
      simp only [toNumber?] at h
      split at h
      · cases h
      · next hx =>
        cases h
        exact isConverted_float (Bool.eq_false_iff.2 hx)
    | nan origin => cases h
  | decimal d => exact isConverted_decimal h
  | date d =>
    cases h
    exact isConverted_float (Calendar.DateTime.isNaN_timestamp _)
  | datetime t =>
    cases h
    exact isConverted_float (Calendar.DateTime.isNaN_timestamp _)
  | text s => exact isConverted_read h
  | list vs => exact loneNumber?_number h
  | tuple vs => exact loneNumber?_number h
  | null | unknown | map | mark | aggregate | cell | observation | stepRef | step => cases h

theorem loneNumber?_number {vs : List Value} {n : Number} (h : loneNumber? vs = some n) :
    IsConverted n := by
  match vs with
  | [] => cases h
  | [v] => exact toNumber?_number h
  | _ :: _ :: _ => cases h

end

/-- A number that comes of a conversion converts to itself. -/
theorem toNumber_number {v : Value} {n : Number} (h : v.toNumber? = some n) :
    (number n).toNumber = v.toNumber := by
  rw [toNumber, toNumber, toNumber?_number h, h]

end RecordCalc.Value
