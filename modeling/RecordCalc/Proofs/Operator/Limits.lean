import RecordCalc.Operator.BuiltIn
import RecordCalc.Proofs.Number.Limits
import RecordCalc.Proofs.Value.Signals

/-
  Where the functions of the built-in operators end. A function fails for an integer that is too
  far for a floating-point number, for one that has too many digits to be written, for a comparison
  that comes to a decimal that signals, and for a count that is too large for a text; which of these
  it comes to is said by one lemma for each function.
-/

namespace RecordCalc

theorem WritesUnless.fails {α : Type} {p : Prop} {x : Except Fault α} (h : WritesUnless p x) :
    Fails x ↔ p :=
  ⟨fun ⟨f, hf⟩ => ((h f).1 hf).2, fun hp => ⟨_, (h _).2 ⟨rfl, hp⟩⟩⟩

@[simp] theorem Value.fails_toText (v : Value) : Fails v.toText ↔ v.HasLongInteger :=
  v.writesUnless_toText.fails

/-! ## Arithmetic -/

namespace Arithmetic

theorem dateLike?_eq_none_iff {v : Value} : dateLike? v = none ↔ v.isDate = false := by
  cases v <;> simp [dateLike?, Value.isDate]

/-- The number of a date is a floating-point number. -/
theorem toNumber_of_dateLike? {v : Value} {d : Value.DateLike} (h : dateLike? v = some d) :
    ∃ x, v.toNumber = .float x := by
  cases v <;> first | exact ⟨_, rfl⟩ | cases h

theorem fails_add (a b : Value) :
    Fails (add a b) ↔ a.isDate = false ∧ b.isDate = false ∧ a.toNumber.Clash b.toNumber := by
  rw [← dateLike?_eq_none_iff, ← dateLike?_eq_none_iff]
  unfold add
  cases ha : dateLike? a with
  | none => cases dateLike? b <;> simp [Number.add]
  | some d =>
    cases hb : dateLike? b with
    | none => simp
    | some d' =>
      -- The numbers of two dates go together.
      obtain ⟨x, hx⟩ := toNumber_of_dateLike? ha
      obtain ⟨y, hy⟩ := toNumber_of_dateLike? hb
      rw [hx, hy]
      simp [Number.add, Number.Clash, Number.IsFar]

theorem fails_subtract (a b : Value) :
    Fails (subtract a b) ↔ a.isDate = false ∧ a.toNumber.Clash b.toNumber := by
  rw [← dateLike?_eq_none_iff]
  unfold subtract
  cases dateLike? a <;> cases dateLike? b <;> simp [Number.sub]

theorem fails_multiply (a b : Value) : Fails (multiply a b) ↔ a.toNumber.Clash b.toNumber := by
  simp [multiply, Number.mul]

theorem fails_sqrt (a : Value) :
    Fails (sqrt a) ↔ a.toNumber.isNegative = false ∧ a.toNumber.IsFar := by
  simp [sqrt]

theorem fails_round (a digits : Value) :
    Fails (round a digits) ↔ a.toNumber.IsUnrounded (digits.toInteger 0) := by
  simp [round, Number.fails_roundHalfAway]

/-- A multiple as a value, a whole number being an integer. -/
def settled (multiple : Number) : Except Fault Value := do
  let x ← multiple.toFloat
  if Binary64.isIntegral x then return .int (← multiple.trunc) else return .number multiple

/-- A multiple of a step by an integer, as a value. -/
def scaledStep (step : Number) (m : Int) : Except Fault Value :=
  Number.mul (.int m) step >>= settled

theorem toMultiple_eq (rounding : Number → Except Fault Int) (a step : Value) :
    toMultiple rounding a step =
      if a.toNumber.isNotFinite then .ok (.number a.toNumber)
      else if step.toNumber.isZero then .ok (.int 0)
      else a.toNumber.ratio step.toNumber >>= fun q =>
        rounding (.float q) >>= scaledStep step.toNumber := rfl

theorem fails_settled_int (n : Int) : Fails (settled (.int n)) ↔ (Number.int n).IsFar := by
  rw [settled, fails_andThen (q := False), Number.fails_toFloat, or_false]
  intro x
  simp [Number.trunc, fails_ite]

theorem not_fails_settled_float (y : Float) : ¬ Fails (settled (.float y)) := by
  show ¬ Fails (if Binary64.isIntegral y then Value.int <$> (Number.float y).trunc
    else pure (.number (.float y)))
  split
  next h => simpa using Number.not_fails_trunc h
  · exact not_fails_pure _

/-- Numbers that are not far have a product among the floating-point numbers. -/
theorem mul_eq_float {a b : Number} (ha : ¬ a.IsFar) (hb : ¬ b.IsFar) (hint : ∀ k, b ≠ .int k) :
    ∃ x, Number.mul a b = .ok (.float x) := by
  rw [← Number.fails_toFloat, not_fails_iff] at ha hb
  obtain ⟨x, hx⟩ := ha
  obtain ⟨y, hy⟩ := hb
  rw [Number.mul, Number.combine, hx, hy]
  · exact ⟨x * y, rfl⟩
  · exact fun _ k _ => hint k

theorem fails_scaledStep {m : Int} (hm : m.natAbs < Binary64.rangeLimit) (step : Number) :
    Fails (scaledStep step m) ↔ ∃ k, step = .int k ∧ (Number.int (m * k)).IsFar := by
  have hnear : ¬ (Number.int m).IsFar := Nat.not_le.2 hm
  cases step with
  | int k =>
    refine (fails_settled_int (m * k)).trans ?_
    simp
  | float y =>
    obtain ⟨x, hx⟩ := mul_eq_float (b := .float y) hnear id nofun
    rw [scaledStep, hx]
    exact iff_of_false (not_fails_settled_float x) (by simp)
  | nan origin =>
    obtain ⟨x, hx⟩ := mul_eq_float (b := .nan origin) hnear id nofun
    rw [scaledStep, hx]
    exact iff_of_false (not_fails_settled_float x) (by simp)

theorem fails_toMultiple {rounding : Number → Except Fault Int} {found : Float → Option Int}
    (hrounding : Number.RoundsBy rounding found) (a step : Value) :
    Fails (toMultiple rounding a step) ↔ a.toNumber.isNotFinite = false ∧
      step.toNumber.isZero = false ∧ a.toNumber.LacksMultiple found step.toNumber := by
  have hquotient (q : Float) : Fails (rounding (.float q) >>= scaledStep step.toNumber) ↔
      found q = none ∨ ∃ m k, found q = some m ∧ step.toNumber = .int k ∧
        (Number.int (m * k)).IsFar := by
    rw [fails_bind, hrounding.fails]
    refine or_congr_right (exists_congr fun m => ?_)
    rw [hrounding.eq_ok_iff, exists_and_left]
    exact and_congr_right fun hm => fails_scaledStep (hrounding.natAbs_lt hm) _
  rw [toMultiple_eq]
  split
  next hn => simp [hn]
  next hn =>
  split
  next hs => simp [hs]
  next hs =>
    rw [Bool.not_eq_true] at hn hs
    rw [fails_bind, Number.fails_ratio hs, Number.LacksMultiple]
    simp [hn, hs, hquotient]

theorem not_fails_int (a : Value) : ¬ Fails (int a) := by
  unfold int
  dsimp only
  split
  · exact not_fails_ok _
  next hfinite =>
    rw [fails_map]
    cases h : a.toNumber with
    | int n => exact not_fails_ok n
    | float x =>
      rw [h] at hfinite
      rw [Number.roundsBy_floor.fails]
      exact Number.isFinite_iff_floor?.1 (by simpa [Number.isNotFinite] using hfinite)
    | nan origin =>
      rw [h] at hfinite
      exact absurd rfl hfinite

end Arithmetic

/-! ## Logic -/

namespace Logic

theorem fails_equal (a b : Value) :
    Fails (equal a b) ↔ a.isNumeric = false ∧ b.isNumeric = false ∧ a.Signals b := by
  simp [equal, Value.fails_equals]

theorem fails_notEqual (a b : Value) :
    Fails (notEqual a b) ↔ a.isNumeric = false ∧ b.isNumeric = false ∧ a.Signals b := by
  simp [notEqual, Value.fails_equals]

end Logic

/-! ## Texts -/

namespace Texts

@[simp] theorem fails_charsOf (v : Value) : Fails (charsOf v) ↔ v.HasLongInteger := by
  simp [charsOf]

theorem fails_concat (vs : List Value) : Fails (concat vs) ↔ ∃ v ∈ vs, v.HasLongInteger := by
  simp [concat, fails_mapM]

theorem fails_upper (v : Value) : Fails (upper v) ↔ v.HasLongInteger := by simp [upper]

theorem fails_lower (v : Value) : Fails (lower v) ↔ v.HasLongInteger := by simp [lower]

theorem fails_trim (v : Value) : Fails (trim v) ↔ v.HasLongInteger := by simp [trim]

theorem fails_length (v : Value) : Fails (length v) ↔ v.HasLongInteger := by simp [length]

theorem fails_left (v count : Value) :
    Fails (left v count) ↔ 0 < count.toInteger 1 ∧ v.HasLongInteger := by
  simp [left, fails_ite]

theorem fails_right (v count : Value) :
    Fails (right v count) ↔ 0 < count.toInteger 1 ∧ v.HasLongInteger := by
  simp [right, fails_ite]

theorem fails_middle (v start count : Value) : Fails (middle v start count) ↔ v.HasLongInteger := by
  simp [middle]

theorem fails_find (needle v start : Value) :
    Fails (find needle v start) ↔ v.HasLongInteger ∨ needle.HasLongInteger := by
  rw [find, fails_andThen (q := needle.HasLongInteger), fails_charsOf]
  intro text
  simp

/-- A count of replacements beyond the size of any text. -/
def ExceedsReplacements (count : Value) : Prop :=
  count ≠ .null ∧ countLimit < (count.toInteger 0).toNat

theorem fails_replacementLimit (count : Value) :
    Fails (replacementLimit count) ↔ ExceedsReplacements count := by
  unfold replacementLimit ExceedsReplacements
  split
  · simp
  next hnull =>
    rw [fails_ite]
    simpa using fun _ => hnull

theorem fails_substitute (v old new count : Value) :
    Fails (substitute v old new count) ↔ v.HasLongInteger ∨ old.HasLongInteger ∨
      ∃ c cs, charsOf old = .ok (c :: cs) ∧ (new.HasLongInteger ∨ ExceedsReplacements count) := by
  have hreplace (text target : List Char) : Fails (do
        let replacement ← charsOf new
        let limit ← replacementLimit count
        return ofChars (Text.replace target replacement limit text)) ↔
      new.HasLongInteger ∨ ExceedsReplacements count := by
    rw [fails_andThen (q := ExceedsReplacements count), fails_charsOf]
    intro replacement
    simp [fails_replacementLimit]
  rw [substitute, fails_andThen, fails_charsOf]
  intro text
  rw [fails_bind, fails_charsOf]
  refine or_congr_right ?_
  constructor
  · rintro ⟨target, htarget, h⟩
    cases target with
    | nil => exact absurd h (not_fails_pure _)
    | cons c cs => exact ⟨c, cs, htarget, (hreplace _ _).1 h⟩
  · rintro ⟨c, cs, htarget, h⟩
    exact ⟨c :: cs, htarget, (hreplace _ _).2 h⟩

/-- A repetition of more characters than any text has, or more often than any text is repeated. -/
def ExceedsRepetition (v count : Value) : Prop :=
  countLimit < (count.toInteger 0).toNat ∨
    ∃ cs, charsOf v = .ok cs ∧ countLimit < cs.length * (count.toInteger 0).toNat

theorem rept_eq {v count : Value} {cs : List Char} (h : charsOf v = .ok cs) :
    rept v count =
      let n := (count.toInteger 0).toNat
      if countLimit < n then .error .repetitionTooLarge
      else if countLimit < cs.length * n then .error .repetitionTooLong
      else if Fault.roomLimit < cs.length * n then .error .outOfMemory
      else .ok (ofChars (if cs.isEmpty then [] else Text.repeated cs n)) := by
  unfold rept
  rw [h]
  rfl

/-- A repetition that does not want for memory. -/
theorem fails_rept {v count : Value} (hroom : rept v count ≠ .error .outOfMemory) :
    Fails (rept v count) ↔ v.HasLongInteger ∨ ExceedsRepetition v count := by
  rw [ExceedsRepetition, ← fails_charsOf]
  cases hchars : charsOf v with
  | error f =>
    unfold rept
    rw [hchars]
    exact iff_of_true ⟨f, rfl⟩ (.inl ⟨f, rfl⟩)
  | ok cs =>
    rw [rept_eq hchars] at hroom ⊢
    dsimp only at hroom ⊢
    split at hroom
    next hcount => simp [hcount]
    next hcount =>
    split at hroom
    next hlength => simp [hcount, hlength]
    next hlength =>
    split at hroom
    next => exact absurd rfl hroom
    next hfits => simp [hcount, hlength, hfits]

end Texts

/-! ## Aggregates -/

namespace Aggregates

theorem fails_sum (vs : List Value) : Fails (sum vs) ↔ Number.SumClashes (Value.numbers vs) := by
  simp [sum]

/-- Some numbers have no mean. -/
def LacksMean (ns : List Number) : Prop :=
  Number.SumClashes ns ∨ ∃ s, Number.sum ns = .ok s ∧ ns ≠ [] ∧ s.OutOfRange (.int ns.length)

theorem fails_mean (ns : List Number) : Fails (mean ns) ↔ LacksMean ns := by
  unfold mean LacksMean
  cases ns with
  | nil => simp
  | cons n ns =>
    have hlength : (Number.int (n :: ns).length).isZero = false := by
      rw [Number.isZero, List.length_cons, beq_eq_false_iff_ne]
      omega
    rw [if_neg (by simp), fails_bind, Number.fails_sum]
    simp only [bind_pure_comp, fails_map, Number.fails_ratio hlength]
    simp

theorem fails_average (vs : List Value) : Fails (average vs) ↔ LacksMean (Value.numbers vs) := by
  simp [average, fails_mean]

theorem not_fails_extreme (beats : Ordering) (vs : List Value) : ¬ Fails (extreme beats vs) := by
  unfold extreme
  dsimp only
  split <;> exact not_fails_ok _

theorem fails_join (v separator : Value) :
    Fails (join v separator) ↔
      (∃ u ∈ Value.flatten [v], u.HasLongInteger) ∨ separator.HasLongInteger := by
  rw [join, fails_andThen (q := separator.HasLongInteger), fails_mapM]
  · refine or_congr_left (exists_congr fun u => ?_)
    rw [List.mem_filter, Value.fails_toText, and_assoc]
    refine and_congr_right fun _ => and_iff_right_of_imp fun hlong => ?_
    simpa using fun habsent => Value.not_hasLongInteger_of_isAbsent habsent hlong
  · intro items
    simp

theorem fails_isAmong_cons (v w : Value) (ws : List Value) :
    Fails (isAmong v (w :: ws)) ↔
      (v.typeOf = w.typeOf ∧ v.Signals w) ∨ v.sameValue w = .ok false ∧ Fails (isAmong v ws) := by
  rw [isAmong, fails_bind, Value.fails_sameValue]
  refine or_congr_right ?_
  constructor
  · rintro ⟨same, hsame, h⟩
    cases same with
    | true => exact absurd h (not_fails_pure _)
    | false => exact ⟨hsame, h⟩
  · rintro ⟨hsame, h⟩
    exact ⟨false, hsame, h⟩

/-- A value cannot be compared with one of a list, those before not being the same. -/
theorem fails_isAmong (v : Value) (ws : List Value) :
    Fails (isAmong v ws) ↔ ∃ before w after, ws = before ++ w :: after ∧
      (∀ u ∈ before, v.sameValue u = .ok false) ∧ v.typeOf = w.typeOf ∧ v.Signals w :=
  Lists.exists_first_iff (fun ws => Fails (isAmong v ws)) (not_fails_ok false)
    (fails_isAmong_cons v) ws

/-- The values kept after one more. -/
def keep (kept : List Value) (v : Value) : Except Fault (List Value) :=
  (fun among => if among then kept else kept ++ [v]) <$> isAmong v kept

theorem distinctAfter_eq (kept vs : List Value) : distinctAfter kept vs = vs.foldlM keep kept := by
  induction vs generalizing kept with
  | nil => rfl
  | cons v vs ih =>
    rw [distinctAfter, List.foldlM_cons, keep]
    cases isAmong v kept with
    | error f => rfl
    | ok among => cases among <;> exact ih _

/-- Of some values one cannot be compared with those kept of the ones before it. -/
theorem fails_distinctAfter (kept vs : List Value) :
    Fails (distinctAfter kept vs) ↔ ∃ before v after ws, vs = before ++ v :: after ∧
      distinctAfter kept before = .ok ws ∧ Fails (isAmong v ws) := by
  simp only [distinctAfter_eq, fails_foldlM, keep, fails_map]

/-- The values of an array cannot all be told apart. -/
def Undistinguished (v : Value) : Prop :=
  ∃ before u after ws before' w after', Value.flatten [v] = before ++ u :: after ∧
    distinctAfter [] before = .ok ws ∧ ws = before' ++ w :: after' ∧
    (∀ x ∈ before', u.sameValue x = .ok false) ∧ u.typeOf = w.typeOf ∧ u.Signals w

theorem fails_distinct (v : Value) : Fails (distinct v) ↔ Undistinguished v := by
  simp only [distinct, fails_map, fails_distinctAfter, fails_isAmong, Undistinguished]
  constructor
  · rintro ⟨before, u, after, ws, hsplit, hkept, before', w, after', h⟩
    exact ⟨before, u, after, ws, before', w, after', hsplit, hkept, h⟩
  · rintro ⟨before, u, after, ws, before', w, after', hsplit, hkept, h⟩
    exact ⟨before, u, after, ws, hsplit, hkept, before', w, after', h⟩

/-- The part of the applicable values that are present is never out of range. -/
theorem not_fails_tracked {vs : List Value} {present : Nat}
    (h : present + (vs.filter isInapplicable).length ≤ vs.length) (value : Option Number) :
    ¬ Fails (tracked vs value present) := by
  unfold tracked
  dsimp only
  generalize happlicable : vs.length - (vs.filter isInapplicable).length = applicable
  split
  · exact not_fails_ok _
  next hpos =>
    have hzero : (Number.int applicable).isZero = false := by
      rw [Number.isZero, beq_eq_false_iff_ne]
      omega
    have hrange : present < applicable * Binary64.rangeLimit :=
      calc present
        _ ≤ applicable := by omega
        _ < applicable * 2 := by omega
        _ ≤ applicable * Binary64.rangeLimit := Nat.mul_le_mul_left _ (by decide +kernel)
    rw [bind_pure_comp, fails_map, Number.fails_ratio hzero]
    exact Nat.not_le.2 hrange

theorem length_filter_add_le {p q : Value → Bool} (hpq : ∀ v, p v = true → q v = false)
    (vs : List Value) : (vs.filter p).length + (vs.filter q).length ≤ vs.length := by
  induction vs with
  | nil => simp
  | cons v vs ih =>
    rw [List.filter_cons, List.filter_cons, List.length_cons]
    cases hp : p v with
    | true =>
      rw [if_pos rfl, if_neg (by simp [hpq v hp]), List.length_cons]
      omega
    | false =>
      rw [if_neg (by simp)]
      split
      · rw [List.length_cons]
        omega
      · omega

/-- Marks are no numbers. -/
theorem length_numbers_add_le (vs : List Value) :
    (Value.numbers vs).length + ((Value.flatten vs).filter isInapplicable).length ≤
      (Value.flatten vs).length := by
  rw [Value.numbers, List.length_filterMap_eq_countP, List.countP_eq_length_filter]
  refine length_filter_add_le (fun v h => ?_) _
  cases v <;> first | rfl | cases h

theorem fails_sum? (ns : List Number) : Fails (sum? ns) ↔ Number.SumClashes ns := by
  cases ns <;> simp [sum?]

theorem fails_trackedSum (vs : List Value) :
    Fails (trackedSum vs) ↔ Number.SumClashes (Value.numbers vs) := by
  rw [trackedSum, fails_andThen (q := False), fails_sum?, or_false]
  intro value
  exact iff_false_intro (not_fails_tracked (length_numbers_add_le vs) value)

theorem fails_trackedMean (vs : List Value) :
    Fails (trackedMean vs) ↔ LacksMean (Value.numbers vs) := by
  rw [trackedMean, fails_andThen (q := False), fails_mean, or_false]
  intro value
  exact iff_false_intro (not_fails_tracked (length_numbers_add_le vs) value)

theorem not_fails_trackedCount (vs : List Value) : ¬ Fails (trackedCount vs) := by
  refine not_fails_tracked (length_filter_add_le (fun v h => ?_) _) _
  simpa using (Bool.and_eq_true_iff.1 h).2

end Aggregates

/-! ## Dates -/

namespace Dates

theorem fails_unitOf? (v : Value) : Fails (unitOf? v) ↔ v.HasLongInteger := by simp [unitOf?]

theorem fails_difference (start finish unit : Value) :
    Fails (difference start finish unit) ↔
      (Value.datetimePair? start finish).isSome = true ∧ unit.HasLongInteger := by
  unfold difference
  cases Value.datetimePair? start finish with
  | none => simp
  | some p =>
    dsimp only
    rw [fails_andThen (q := False), fails_unitOf?]
    · simp
    · intro found
      split <;> simp

theorem fails_shifted (v count unit : Value) :
    Fails (shifted v count unit) ↔ v.toDate?.isSome = true ∧ unit.HasLongInteger := by
  unfold shifted
  cases v.toDate? with
  | none => simp
  | some d => simp [fails_unitOf?]

end Dates

/-! ## Types and absent data -/

namespace Absence

theorem fails_toText (v : Value) : Fails (toText v) ↔ v.HasLongInteger := by simp [toText]

theorem fails_distinct (a b : Value) :
    Fails (distinct a b) ↔ a.typeOf = b.typeOf ∧ a.Signals b := by
  unfold distinct
  split
  next h => exact iff_of_false (not_fails_pure _) fun hs => Value.not_signals_of_isAbsent h hs.2
  · simp [Value.fails_sameValue]

theorem fails_isDistinct (a b : Value) :
    Fails (isDistinct a b) ↔ a.typeOf = b.typeOf ∧ a.Signals b := by
  simp [isDistinct, fails_distinct]

theorem fails_isNotDistinct (a b : Value) :
    Fails (isNotDistinct a b) ↔ a.typeOf = b.typeOf ∧ a.Signals b := by
  simp [isNotDistinct, fails_distinct]

theorem fails_nullIf (a b : Value) :
    Fails (nullIf a b) ↔ a.typeOf = b.typeOf ∧ a.Signals b := by
  unfold nullIf
  split
  next h => exact iff_of_false (not_fails_pure _) fun hs => Value.not_signals_of_isAbsent h hs.2
  · rw [fails_andThen (q := False), Value.fails_sameValue, or_false]
    intro same
    cases same <;> simp

theorem fails_mark (kind : MarkKind) (reason : Value) :
    Fails (mark kind reason) ↔ reason.HasLongInteger := by
  unfold mark
  split
  next h => exact iff_of_false (not_fails_pure _) (Value.not_hasLongInteger_of_isAbsent h)
  · simp

theorem fails_equal3 (a b : Value) :
    Fails (equal3 a b) ↔ a.isNumeric = false ∧ b.isNumeric = false ∧ a.Signals b := by
  unfold equal3
  split
  next h =>
    refine iff_of_false (not_fails_pure _) fun hs => ?_
    rcases Bool.or_eq_true_iff.1 h with h | hb
    rcases Bool.or_eq_true_iff.1 h with h | ha
    · exact Value.not_signals_of_isUnknown h hs.2.2
    · exact Value.not_signals (.inl (Value.isPlain_of_isAbsent ha)) hs.2.2
    · exact Value.not_signals (.inr (Value.isPlain_of_isAbsent hb)) hs.2.2
  · simp [Value.fails_equals]

end Absence

end RecordCalc
