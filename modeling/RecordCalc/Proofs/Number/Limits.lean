import RecordCalc.Number.Decimal
import RecordCalc.Number.Power
import RecordCalc.Proofs.Number.Range
import RecordCalc.Proofs.Outcomes

/-
  Where calculating with numbers ends. Two integers are calculated with exactly, their quotients
  apart; all else needs floating-point numbers, and an integer that is too far for one (`IsFar`)
  does not go together with them (`Clash`).
-/

namespace RecordCalc.Number

open Binary64 (rangeLimit)

/-- An integer beyond the floating-point numbers. -/
def IsFar : Number → Prop
  | int n => rangeLimit ≤ n.natAbs
  | float _ | nan _ => False

/-- Of two numbers that are not both integers one is an integer beyond the floating-point
numbers. -/
def Clash : Number → Number → Prop
  | int _, int _ => False
  | a, b => a.IsFar ∨ b.IsFar

/-- Two numbers have no quotient among the floating-point numbers. -/
def OutOfRange : Number → Number → Prop
  | int m, int n => n.natAbs * rangeLimit ≤ m.natAbs
  | a, b => a.Clash b

/-- An integer is a multiple of an integer. -/
def IsMultiple : Number → Number → Prop
  | int m, int n => Int.fmod m n = 0
  | _, _ => False

/-- Places before the point that are too many for a decimal, but not for moving the point. -/
def IsMisplaced (digits : Int) : Prop :=
  (Decimal.exponentLimit : Int) < -digits ∧ digits.natAbs ≤ Decimal.scaleLimit

/-- A number cannot be rounded to some decimal places. -/
def IsUnrounded : Number → Int → Prop
  | int n, digits => digits < 0 ∧ ((int n).IsFar ∨ IsMisplaced digits)
  | float x, digits => Binary64.isFinite x = true ∧ IsMisplaced digits
  | nan _, _ => False

/-- In a sum from left to right some number does not go together with the sum of those before. -/
def SumClashes (ns : List Number) : Prop :=
  ∃ before n after s, ns = before ++ n :: after ∧ sum before = .ok s ∧ s.Clash n

@[simp] theorem not_sumClashes_nil : ¬ SumClashes [] := by simp [SumClashes]

@[simp] theorem fails_toFloat (n : Number) : Fails n.toFloat ↔ n.IsFar := by
  cases n with
  | int n =>
    rw [toFloat, floatOfInt, IsFar, ← Binary64.ofInt?_eq_none_iff]
    cases Binary64.ofInt? n <;> simp
  | float | nan => exact iff_of_false (not_fails_ok _) id

theorem exists_toFloat {n : Int} (hn : n.natAbs < rangeLimit) : ∃ x, (int n).toFloat = .ok x :=
  not_fails_iff.1 (mt (fails_toFloat _).1 (Nat.not_le.2 hn))

theorem fails_operands {α : Type} (a b : Number) (f : Float → Float → α) :
    Fails (do return f (← a.toFloat) (← b.toFloat)) ↔ a.IsFar ∨ b.IsFar := by
  rw [fails_andThen (q := b.IsFar), fails_toFloat]
  intro x
  rw [fails_bind]
  simp

@[simp] theorem fails_combine (onInt : Int → Int → Int) (onFloat : Float → Float → Float)
    (a b : Number) : Fails (combine onInt onFloat a b) ↔ a.Clash b := by
  cases a <;> cases b <;>
    first
    | exact iff_of_false (not_fails_ok _) id
    | exact fails_operands _ _ _

theorem fails_ratio {a b : Number} (hb : b.isZero = false) :
    Fails (a.ratio b) ↔ a.OutOfRange b := by
  cases a <;> cases b <;> try exact fails_operands _ _ _
  next m n =>
    have hn : n ≠ 0 := by simpa [isZero] using hb
    rw [ratio, OutOfRange, ← Binary64.ofIntRatio?_eq_none_iff hn]
    cases Binary64.ofIntRatio? m n <;> simp

theorem fails_div {a b : Number} (hb : b.isZero = false) :
    Fails (a.div b) ↔ ¬ a.IsMultiple b ∧ a.OutOfRange b := by
  rw [← fails_ratio hb]
  cases a <;> cases b <;> simp [div, IsMultiple, fails_ite]

@[simp] theorem fails_sum (ns : List Number) : Fails (sum ns) ↔ SumClashes ns := by
  simp only [sum, fails_foldlM, add, fails_combine]
  rfl

@[simp] theorem fails_sqrt (n : Number) : Fails n.sqrt ↔ n.isNegative = false ∧ n.IsFar := by
  rw [sqrt, fails_ite]
  simp

theorem fails_roundWritten (n : Number) (digits : Int) :
    Fails (roundHalfAway.roundWritten n digits) ↔ IsMisplaced digits := by
  unfold roundHalfAway.roundWritten IsMisplaced
  split
  · simp; omega
  split
  · simp; omega
  · dsimp only
    split
    · simp; omega
    · simp; omega

theorem fails_roundHalfAway (n : Number) (digits : Int) :
    Fails (n.roundHalfAway digits) ↔ n.IsUnrounded digits := by
  cases n with
  | int n =>
    have hround : Fails ((int n).toFloat.bind fun _ => roundHalfAway.roundWritten (int n) digits) ↔
        (int n).IsFar ∨ IsMisplaced digits :=
      (fails_andThen fun _ => fails_roundWritten _ _).trans (or_congr_left (fails_toFloat _))
    rw [roundHalfAway, fails_ite]
    simpa [IsUnrounded] using fun _ => hround
  | float x =>
    rw [roundHalfAway, fails_ite, fails_roundWritten]
    simp [IsUnrounded]
  | nan origin => exact iff_of_false (not_fails_ok _) id

/-! ## Integers next to a number -/

/-- The integer found for a floating-point number, if there is one. -/
theorem found_eq_ok_iff {x : Float} {found : Option Int} {n : Int} :
    (match found with | some n => .ok n | none => .error (notFinite x)) = Except.ok n ↔
      found = some n := by
  cases found <;> simp

/-- A rounding of floating-point numbers to integers, none for some of them. -/
structure RoundsBy (rounding : Number → Except Fault Int) (found : Float → Option Int) : Prop where
  eq_ok_iff {x : Float} {n : Int} : rounding (float x) = .ok n ↔ found x = some n
  natAbs_lt {x : Float} {n : Int} : found x = some n → n.natAbs < rangeLimit

theorem roundsBy_floor : RoundsBy floor Binary64.floor? :=
  ⟨found_eq_ok_iff, Binary64.natAbs_floor?_lt⟩

theorem roundsBy_ceil : RoundsBy ceil Binary64.ceil? :=
  ⟨found_eq_ok_iff, Binary64.natAbs_ceil?_lt⟩

theorem RoundsBy.fails {rounding : Number → Except Fault Int} {found : Float → Option Int}
    (h : RoundsBy rounding found) (x : Float) : Fails (rounding (float x)) ↔ found x = none := by
  rw [← not_iff_not, not_fails_iff, ← ne_eq, Option.ne_none_iff_exists']
  exact exists_congr fun n => h.eq_ok_iff

theorem isFinite_iff_floor? {x : Float} :
    Binary64.isFinite x = true ↔ Binary64.floor? x ≠ none := by
  unfold Binary64.isFinite Binary64.floor?
  cases Binary64.parts x <;> simp

theorem not_fails_trunc {x : Float} (h : Binary64.isIntegral x = true) :
    ¬ Fails (float x).trunc := by
  have hsome : ∃ n, Binary64.trunc? x = some n := by
    unfold Binary64.isIntegral at h
    unfold Binary64.trunc?
    cases hparts : Binary64.parts x <;> simp [hparts] at h ⊢
  exact not_fails_iff.2 (hsome.imp fun n => found_eq_ok_iff.2)

/-- A number has no multiple of a step next to it: there is no quotient, the quotient has no
integer next to it, or the multiple is an integer too far. -/
def LacksMultiple (found : Float → Option Int) (n step : Number) : Prop :=
  n.OutOfRange step ∨ ∃ q, n.ratio step = .ok q ∧
    (found q = none ∨ ∃ m k, found q = some m ∧ step = int k ∧ (int (m * k)).IsFar)

end RecordCalc.Number
