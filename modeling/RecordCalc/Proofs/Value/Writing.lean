import RecordCalc.Proofs.Value.Faults
import RecordCalc.Value.Convert

/-
  Writing values as text. A value can be shown, taken as text and displayed just when no part of it
  is an integer with more digits than are written (`writesUnless_shown`, `writesUnless_toText`). The
  whole numbers among the floating-point numbers are never that long.
-/

namespace RecordCalc

/-! ## What can be written -/

section
variable {α β : Type} {p q : Prop}

/-- The computation fails when the condition holds, with the fault of an integer that has too many
digits, and only then. -/
def WritesUnless (p : Prop) (x : Except Fault α) : Prop :=
  ∀ f, x = .error f ↔ f = .tooManyDigitsToWrite ∧ p

namespace WritesUnless

theorem ok (h : ¬ p) (a : α) : WritesUnless p (.ok a : Except Fault α) :=
  fun _ => ⟨nofun, fun ⟨_, hp⟩ => absurd hp h⟩

theorem error (h : p) : WritesUnless p (.error .tooManyDigitsToWrite : Except Fault α) :=
  fun _ => ⟨fun he => ⟨(Except.error.inj he).symm, h⟩, fun ⟨he, _⟩ => he ▸ rfl⟩

theorem congr {x : Except Fault α} (h : WritesUnless p x) (hpq : p ↔ q) : WritesUnless q x :=
  fun f => by rw [h f, hpq]

theorem bind {x : Except Fault α} {f : α → Except Fault β} (hx : WritesUnless p x)
    (hf : ∀ a, WritesUnless q (f a)) : WritesUnless (p ∨ q) (x >>= f) := by
  cases x with
  | error g =>
    obtain ⟨rfl, hp⟩ := (hx g).1 rfl
    exact error (.inl hp)
  | ok a =>
    have hp : ¬ p := fun hp => nomatch (hx _).2 ⟨rfl, hp⟩
    exact (hf a).congr ⟨.inr, fun h => h.resolve_left hp⟩

theorem map {x : Except Fault α} (hx : WritesUnless p x) (f : α → β) :
    WritesUnless p (f <$> x) := by
  cases x with
  | error g =>
    obtain ⟨rfl, hp⟩ := (hx g).1 rfl
    exact error hp
  | ok a => exact ok (fun hp => nomatch (hx _).2 ⟨rfl, hp⟩) (f a)

theorem mapM {P : α → Prop} {f : α → Except Fault β} (hf : ∀ a, WritesUnless (P a) (f a))
    (as : List α) : WritesUnless (∃ a ∈ as, P a) (as.mapM f) := by
  induction as with
  | nil => exact ok (by simp) []
  | cons a as ih =>
    rw [List.mapM_cons]
    exact ((hf a).bind fun _ => ih.map _).congr (by simp)

theorem onlyAnswered {x : Except Fault α} (h : WritesUnless p x) : OnlyAnswered x := by
  intro f hf
  obtain ⟨rfl, -⟩ := (h f).1 hf
  rfl

end WritesUnless

end

/-! ## Integers -/

namespace Binary64

theorem lt_decimalLength_iff {k n : Nat} (hk : 0 < k) :
    k < decimalLength n ↔ Nat.pow 10 k ≤ n := by
  rw [decimalLength, ← Nat.not_le, Nat.length_toDigits_le_iff (by decide) hk, Nat.not_lt]
  rfl

theorem natAbs_signed (negative : Bool) (n : Nat) : (signed negative n).natAbs = n := by
  unfold signed
  split <;> simp

theorem signed_natAbs (n : Int) : signed (n < 0) n.natAbs = n := by
  unfold signed
  split
  next hn =>
    rw [decide_eq_true_eq] at hn
    omega
  next hn =>
    rw [decide_eq_true_eq] at hn
    omega

theorem bounds_of_parts {x : Float} {negative : Bool} {m : Nat} {e : Int}
    (h : parts x = .finite negative m e) : m < Nat.pow 2 53 ∧ e ≤ 971 := by
  have hfraction : x.toBits.toNat % Nat.pow 2 52 < Nat.pow 2 52 := Nat.mod_lt _ (by decide)
  have hbiased : x.toBits.toNat / Nat.pow 2 52 % 2048 < 2048 := Nat.mod_lt _ (by decide)
  have hdouble : Nat.pow 2 53 = Nat.pow 2 52 + Nat.pow 2 52 := rfl
  unfold parts at h
  dsimp only at h
  split at h
  · split at h <;> cases h
  · split at h
    · cases h
      omega
    · cases h
      omega

theorem shiftLeft_lt {m k a b : Nat} (hm : m < Nat.pow 2 a) (hk : k ≤ b) :
    m <<< k < Nat.pow 2 (a + b) :=
  calc m <<< k = m * Nat.pow 2 k := Nat.shiftLeft_eq _ _
    _ < Nat.pow 2 a * Nat.pow 2 k := Nat.mul_lt_mul_of_pos_right hm (Nat.two_pow_pos k)
    _ = Nat.pow 2 (a + k) := (Nat.pow_add 2 a k).symm
    _ ≤ Nat.pow 2 (a + b) := Nat.pow_le_pow_right Nat.two_pos (Nat.add_le_add_left hk a)

theorem shiftRight_lt {m a : Nat} (hm : m < Nat.pow 2 a) (k b : Nat) :
    m >>> k < Nat.pow 2 (a + b) :=
  calc m >>> k ≤ m := Nat.shiftRight_le _ _
    _ < Nat.pow 2 a := hm
    _ ≤ Nat.pow 2 (a + b) := Nat.pow_le_pow_right Nat.two_pos (Nat.le_add_right a b)

theorem pow_two_le_pow_ten {k d : Nat} (h : k ≤ d) : Nat.pow 2 k ≤ Nat.pow 10 d :=
  calc Nat.pow 2 k ≤ Nat.pow 10 k := Nat.pow_le_pow_left (by decide) k
    _ ≤ Nat.pow 10 d := Nat.pow_le_pow_right (by decide) h

/-- A finite number is below a power of two. -/
theorem natAbs_trunc?_lt {x : Float} {n : Int} (h : trunc? x = some n) :
    n.natAbs < Nat.pow 2 (53 + 971) := by
  unfold trunc? at h
  split at h
  · next negative m e hparts =>
    obtain ⟨hm, he⟩ := bounds_of_parts hparts
    obtain rfl := Option.some.inj h
    rw [natAbs_signed]
    split
    · exact shiftLeft_lt (a := 53) (b := 971) hm (Int.toNat_le.2 he)
    · exact shiftRight_lt (a := 53) hm _ 971
  · cases h

end Binary64

/-! ## Where long integers are -/

namespace Value

theorem hasLongInteger_int {n : Int} : (number (.int n)).HasLongInteger ↔ IsLong n :=
  hasPart_of_held_nil rfl

theorem hasLongInteger_stepRef {index : Int} : (stepRef index).HasLongInteger ↔ IsLong index :=
  hasPart_of_held_nil rfl

theorem hasLongInteger_aggregate {a : Aggregate} :
    (aggregate a).HasLongInteger ↔ ∃ n, a.value = some (.int n) ∧ IsLong n :=
  hasPart_of_held_nil rfl

theorem hasLongInteger_list {vs : List Value} :
    (list vs).HasLongInteger ↔ ∃ v ∈ vs, v.HasLongInteger := hasPart_held (v := list vs) id

theorem hasLongInteger_tuple {vs : List Value} :
    (tuple vs).HasLongInteger ↔ ∃ v ∈ vs, v.HasLongInteger := hasPart_held (v := tuple vs) id

theorem hasLongInteger_step {operator : String} {args : List Value} :
    (step operator args).HasLongInteger ↔ ∃ v ∈ args, v.HasLongInteger :=
  hasPart_held (v := step operator args) id

theorem hasLongInteger_map {es : List (String × Value)} :
    (map es).HasLongInteger ↔ ∃ e ∈ es, e.2.HasLongInteger := by
  refine (hasPart_held (v := map es) id).trans ?_
  simp only [held, List.mem_map]
  constructor
  · rintro ⟨_, ⟨e, he, rfl⟩, h⟩
    exact ⟨e, he, h⟩
  · rintro ⟨e, he, h⟩
    exact ⟨e.2, ⟨e, he, rfl⟩, h⟩

theorem hasLongInteger_cell {os : List (Value × Value)} :
    (cell os).HasLongInteger ↔ ∃ o ∈ os, o.1.HasLongInteger ∨ o.2.HasLongInteger := by
  refine (hasPart_held (v := cell os) id).trans ?_
  simp only [held, List.mem_flatMap, List.mem_cons, List.not_mem_nil, or_false]
  constructor
  · rintro ⟨w, ⟨o, ho, rfl | rfl⟩, h⟩
    · exact ⟨o, ho, .inl h⟩
    · exact ⟨o, ho, .inr h⟩
  · rintro ⟨o, ho, h | h⟩
    · exact ⟨o.1, ⟨o, ho, .inl rfl⟩, h⟩
    · exact ⟨o.2, ⟨o, ho, .inr rfl⟩, h⟩

theorem hasLongInteger_observation {v t : Value} :
    (observation v t).HasLongInteger ↔ v.HasLongInteger ∨ t.HasLongInteger := by
  refine (hasPart_held (v := observation v t) id).trans ?_
  simp [held]

end Value

namespace Number

open Value (IsLong)

theorem writesUnless_intText (n : Int) : WritesUnless (IsLong n) (intText n) := by
  have hlength : Fault.digitLimit < Binary64.decimalLength n.natAbs ↔ IsLong n :=
    Binary64.lt_decimalLength_iff (k := Fault.digitLimit) (by decide)
  unfold intText
  split
  · next hlong => exact .error (hlength.1 hlong)
  · next hshort => exact .ok (mt hlength.2 hshort) _

theorem not_isLong_of_lt {k : Nat} {n : Int} (hk : k ≤ Fault.digitLimit)
    (h : n.natAbs < Nat.pow 2 k) : ¬ IsLong n :=
  Nat.not_le_of_lt (Nat.lt_of_lt_of_le h (Binary64.pow_two_le_pow_ten hk))

theorem not_isLong_of_trunc? {x : Float} {n : Int} (h : Binary64.trunc? x = some n) :
    ¬ IsLong n := not_isLong_of_lt (k := 53 + 971) (by decide) (Binary64.natAbs_trunc?_lt h)

theorem writesUnless_shown (n : Number) : WritesUnless (Value.number n).HasLongInteger n.shown := by
  cases n with
  | int n => exact (writesUnless_intText n).congr Value.hasLongInteger_int.symm
  | float | nan => exact .ok (Value.not_hasPart rfl id) _

theorem writesUnless_text (n : Number) : WritesUnless (Value.number n).HasLongInteger n.text := by
  cases n with
  | int n => exact (writesUnless_intText n).congr Value.hasLongInteger_int.symm
  | float x =>
    have hshort : ¬ (Value.number (.float x)).HasLongInteger :=
      Value.not_hasPart rfl id
    rw [text]
    split
    · next n _ htrunc =>
      refine (writesUnless_intText n).congr ⟨fun h => ?_, fun h => absurd h hshort⟩
      exact absurd h (not_isLong_of_trunc? htrunc)
    · exact .ok hshort _
  | nan => exact .ok (Value.not_hasPart rfl id) _

end Number

/-! ## Values -/

namespace Value

theorem writesUnless_shownAggregate (a : Aggregate) :
    WritesUnless (aggregate a).HasLongInteger a.shown := by
  have hvalue : WritesUnless (aggregate a).HasLongInteger (shownNumber? a.value) := by
    refine WritesUnless.congr ?_ hasLongInteger_aggregate.symm
    cases a.value with
    | none => exact .ok (by simp) _
    | some n =>
      cases n with
      | int n => exact (Number.writesUnless_intText n).congr (by simp)
      | float | nan => exact .ok (by simp) _
  exact hvalue.map _

mutual

theorem writesUnless_shown (v : Value) : WritesUnless v.HasLongInteger v.shown := by
  cases v with
  | number n => exact n.writesUnless_shown
  | list vs => exact ((writesUnless_shownItems vs).map _).congr hasLongInteger_list.symm
  | tuple vs => exact ((writesUnless_shownItems vs).map _).congr hasLongInteger_tuple.symm
  | map es => exact ((writesUnless_shownEntries es).map _).congr hasLongInteger_map.symm
  | aggregate a => exact writesUnless_shownAggregate a
  | cell os => exact ((writesUnless_shownObservations os).map _).congr hasLongInteger_cell.symm
  | observation v t =>
    exact ((writesUnless_shown v).bind fun _ => (writesUnless_shown t).map _).congr
      hasLongInteger_observation.symm
  | stepRef index =>
    exact ((Number.writesUnless_intText index).map _).congr hasLongInteger_stepRef.symm
  | step operator args =>
    exact ((writesUnless_shownItems args).map _).congr hasLongInteger_step.symm
  | mark kind reason => cases kind <;> exact .ok (not_hasPart rfl id) _
  | null | bool | unknown | decimal | text | date | datetime => exact .ok (not_hasPart rfl id) _

theorem writesUnless_shownItems (vs : List Value) :
    WritesUnless (∃ v ∈ vs, v.HasLongInteger) (shownItems vs) := by
  cases vs with
  | nil => exact .ok (by simp) []
  | cons v vs =>
    exact ((writesUnless_shown v).bind fun _ => (writesUnless_shownItems vs).map _).congr (by simp)

theorem writesUnless_shownEntries (es : List (String × Value)) :
    WritesUnless (∃ e ∈ es, e.2.HasLongInteger) (shownEntries es) := by
  cases es with
  | nil => exact .ok (by simp) []
  | cons e es =>
    exact ((writesUnless_shown e.2).bind fun _ =>
      (writesUnless_shownEntries es).map _).congr (by simp)

theorem writesUnless_shownObservations (os : List (Value × Value)) :
    WritesUnless (∃ o ∈ os, o.1.HasLongInteger ∨ o.2.HasLongInteger) (shownObservations os) := by
  cases os with
  | nil => exact .ok (by simp) []
  | cons o os =>
    exact ((writesUnless_shown o.1).bind fun _ => (writesUnless_shown o.2).bind fun _ =>
      (writesUnless_shownObservations os).map _).congr (by simp [or_assoc])

end

theorem writesUnless_plain (v : Value) : WritesUnless v.HasLongInteger v.plain := by
  unfold plain
  split
  · exact .ok (not_hasPart rfl id) _
  · exact .ok (not_hasPart rfl id) _
  · exact .ok (not_hasPart rfl id) _
  · exact .ok (not_hasPart rfl id) _
  · exact writesUnless_shown _

theorem not_hasLongInteger_of_isAbsent {v : Value} {emptyText : Bool}
    (h : v.isAbsent emptyText = true) : ¬ v.HasLongInteger := by
  unfold isAbsent at h
  split at h
  · exact not_hasPart rfl id
  · exact not_hasPart rfl id
  · exact not_hasPart rfl id
  · cases h

mutual

theorem writesUnless_toText (v : Value) : WritesUnless v.HasLongInteger v.toText := by
  cases v with
  | number n => exact n.writesUnless_text
  | list vs => exact ((writesUnless_presentTexts vs).map _).congr hasLongInteger_list.symm
  | tuple vs => exact ((writesUnless_presentTexts vs).map _).congr hasLongInteger_tuple.symm
  | null | bool | unknown | text | date | datetime | mark => exact .ok (not_hasPart rfl id) _
  | decimal | map | aggregate | cell | observation | stepRef | step =>
    unfold toText
    exact writesUnless_plain _

theorem writesUnless_presentTexts (vs : List Value) :
    WritesUnless (∃ v ∈ vs, v.HasLongInteger) (presentTexts vs) := by
  cases vs with
  | nil => exact .ok (by simp) []
  | cons v vs =>
    unfold presentTexts
    split
    · next habsent =>
      exact (writesUnless_presentTexts vs).congr
        (by simp [not_hasLongInteger_of_isAbsent habsent])
    · exact ((writesUnless_toText v).bind fun _ => (writesUnless_presentTexts vs).map _).congr
        (by simp)

end

theorem onlyAnswered_toText (v : Value) : OnlyAnswered v.toText :=
  (writesUnless_toText v).onlyAnswered

end Value

end RecordCalc
