import RecordCalc.Number.Decimal
import RecordCalc.Number.Power
import RecordCalc.Proofs.Value.Parts
import RecordCalc.Value.Compare

/-
  The faults of numbers and values. What a computation may fail with is said by `FailsOnly`.
  Calculating with numbers, comparing values and writing them as text come to no other faults than
  those that operators answer for (`OnlyAnswered`).
-/

namespace RecordCalc

/-! ## What a computation may fail with -/

section
variable {ε α β : Type} {p : ε → Prop}

/-- Every failure of the computation has the property. -/
def FailsOnly (p : ε → Prop) (x : Except ε α) : Prop := ∀ e, x = .error e → p e

namespace FailsOnly

theorem ok (a : α) : FailsOnly p (.ok a) := fun _ h => nomatch h

theorem error {e : ε} (h : p e) : FailsOnly p (.error e : Except ε α) := by
  rintro _ ⟨⟩
  exact h

theorem bind {x : Except ε α} {f : α → Except ε β} (hx : FailsOnly p x)
    (hf : ∀ a, FailsOnly p (f a)) : FailsOnly p (x >>= f) := by
  cases x with
  | error e => exact error (hx e rfl)
  | ok a => exact hf a

theorem bind_of_ok {x : Except ε α} {f : α → Except ε β} {a : α} (hx : x = .ok a)
    (hf : FailsOnly p (f a)) : FailsOnly p (x >>= f) := by
  rw [hx]
  exact hf

theorem mono {q : ε → Prop} {x : Except ε α} (hx : FailsOnly p x) (h : ∀ e, p e → q e) :
    FailsOnly q x := fun e he => h e (hx e he)

theorem map {x : Except ε α} (hx : FailsOnly p x) (f : α → β) : FailsOnly p (f <$> x) := by
  cases x with
  | error e => exact error (hx e rfl)
  | ok a => exact ok (f a)

theorem ite {c : Prop} [Decidable c] {x y : Except ε α} (hx : FailsOnly p x)
    (hy : FailsOnly p y) : FailsOnly p (if c then x else y) := by
  split
  · exact hx
  · exact hy

theorem mapM {f : α → Except ε β} (hf : ∀ a, FailsOnly p (f a)) (as : List α) :
    FailsOnly p (as.mapM f) := by
  induction as with
  | nil => exact ok []
  | cons a as ih =>
    rw [List.mapM_cons]
    exact (hf a).bind fun _ => ih.bind fun _ => ok _

theorem foldlM {f : β → α → Except ε β} (hf : ∀ b a, FailsOnly p (f b a)) (b : β) (as : List α) :
    FailsOnly p (as.foldlM f b) := by
  induction as generalizing b with
  | nil => exact ok b
  | cons a as ih =>
    rw [List.foldlM_cons]
    exact (hf b a).bind ih

end FailsOnly

end

/-- Every fault of the computation is of a kind that operators answer for. -/
abbrev OnlyAnswered {α : Type} (x : Except Fault α) : Prop :=
  FailsOnly (fun f => f.kind.isOperatorFault = true) x

/-! ## Numbers -/

namespace Number

theorem onlyAnswered_toFloat (n : Number) : OnlyAnswered n.toFloat := by
  cases n with
  | int n =>
    rw [toFloat, floatOfInt]
    split
    · exact .ok _
    · exact .error rfl
  | float x => exact .ok x
  | nan origin => exact .ok _

theorem onlyAnswered_combine (onInt : Int → Int → Int) (onFloat : Float → Float → Float)
    (a b : Number) : OnlyAnswered (combine onInt onFloat a b) := by
  unfold combine
  split
  · exact .ok _
  · exact a.onlyAnswered_toFloat.bind fun _ => b.onlyAnswered_toFloat.bind fun _ => .ok _

theorem onlyAnswered_ratio (a b : Number) : OnlyAnswered (a.ratio b) := by
  unfold ratio
  split
  · split
    · exact .ok _
    · exact .error rfl
  · exact a.onlyAnswered_toFloat.bind fun _ => b.onlyAnswered_toFloat.bind fun _ => .ok _

theorem onlyAnswered_div (a b : Number) : OnlyAnswered (a.div b) := by
  unfold div
  split
  · exact .ite (.ok _) ((onlyAnswered_ratio _ _).map _)
  · exact (onlyAnswered_ratio _ _).map _

theorem isOperatorFault_notFinite (x : Float) : (notFinite x).kind.isOperatorFault = true := by
  unfold notFinite
  split <;> rfl

/-- The integer found for a floating-point number, if there is one. -/
theorem onlyAnswered_found (x : Float) (found : Option Int) :
    OnlyAnswered (match found with | some n => .ok n | none => .error (notFinite x)) := by
  cases found with
  | some n => exact .ok n
  | none => exact .error (isOperatorFault_notFinite x)

theorem onlyAnswered_floor (n : Number) : OnlyAnswered n.floor := by
  cases n with
  | int n => exact .ok n
  | float x => exact onlyAnswered_found x _
  | nan origin => exact .error rfl

theorem onlyAnswered_ceil (n : Number) : OnlyAnswered n.ceil := by
  cases n with
  | int n => exact .ok n
  | float x => exact onlyAnswered_found x _
  | nan origin => exact .error rfl

theorem onlyAnswered_trunc (n : Number) : OnlyAnswered n.trunc := by
  cases n with
  | int n => exact .ok n
  | float x => exact onlyAnswered_found x _
  | nan origin => exact .error rfl

theorem onlyAnswered_sum (ns : List Number) : OnlyAnswered (sum ns) :=
  .foldlM (fun a b => onlyAnswered_combine _ _ a b) _ ns

theorem onlyAnswered_sqrt (n : Number) : OnlyAnswered n.sqrt :=
  .ite (.ok _) (n.onlyAnswered_toFloat.map _)

theorem onlyAnswered_roundWritten (n : Number) (digits : Int) :
    OnlyAnswered (roundHalfAway.roundWritten n digits) := by
  unfold roundHalfAway.roundWritten
  refine .ite (.ok _) (.ite (.error rfl) ?_)
  dsimp only
  split
  · exact .ok _
  · exact .ok _

theorem onlyAnswered_roundHalfAway (n : Number) (digits : Int) :
    OnlyAnswered (n.roundHalfAway digits) := by
  cases n with
  | int n =>
    exact .ite (.ok _)
      ((onlyAnswered_toFloat _).bind fun _ => onlyAnswered_roundWritten _ digits)
  | float x => exact .ite (onlyAnswered_roundWritten _ digits) (.ok _)
  | nan origin => exact .ok _

end Number

/-! ## Equality -/

/-- The comparison of two values fails only where some part of one of them signals. -/
abbrev OnlySignaling (v w : Value) (x : Except Fault Bool) : Prop :=
  FailsOnly (fun f => f = .decimalInvalid ∧ (v.HasSignaling ∨ w.HasSignaling)) x

namespace OnlySignaling

variable {v w v' w' : Value} {x : Except Fault Bool}

theorem onlyAnswered (h : OnlySignaling v w x) : OnlyAnswered x :=
  h.mono fun _ ⟨hf, _⟩ => hf ▸ rfl

/-- What signals in values that are held signals in what holds them. -/
theorem of_held (h : OnlySignaling v w x) (hv : v ∈ v'.held) (hw : w ∈ w'.held) :
    OnlySignaling v' w' x :=
  h.mono fun _ ⟨hf, hp⟩ => ⟨hf, hp.imp (.held hv) (.held hw)⟩

/-- What signals in values signals in those that hold as much. -/
theorem of_subset (h : OnlySignaling v w x) (hv : ¬ v.IsSignaling) (hw : ¬ w.IsSignaling)
    (hv' : v.held ⊆ v'.held) (hw' : w.held ⊆ w'.held) : OnlySignaling v' w' x :=
  h.mono fun _ ⟨hf, hp⟩ => ⟨hf, hp.imp (·.of_subset hv hv') (·.of_subset hw hw')⟩

end OnlySignaling

theorem Decimal.onlySignaling_equal (a b : Decimal) :
    OnlySignaling (.decimal a) (.decimal b) (a.equal b) := by
  unfold Decimal.equal
  split
  · exact .error ⟨rfl, .inl (.self trivial)⟩
  · exact .error ⟨rfl, .inr (.self trivial)⟩
  all_goals first | exact .ok _ | exact .ite (.ok _) (.ite (.ok _) (.ok _))

/-- No number signals. -/
theorem Decimal.not_hasSignaling_ofNumber (n : Number) :
    ¬ (Value.decimal (.ofNumber n)).HasSignaling := by
  refine Value.not_hasPart rfl ?_
  cases n with
  | int n => exact id
  | float x =>
    rw [ofNumber]
    split
    · unfold ofBinary
      split <;> exact id
    · exact id
    · exact id
  | nan origin => exact id

namespace Value

theorem eq_of_numeric?_decimal {v : Value} {d : Decimal} (h : v.numeric? = some (.decimal d)) :
    v = decimal d := by
  cases v <;> cases h
  rfl

theorem onlySignaling_equalNumeric (v w : Value) : OnlySignaling v w (equalNumeric v w) := by
  unfold equalNumeric
  split
  · next a b ha hb =>
    match a, b with
    | .number a, .number b => exact .ok _
    | .number a, .decimal b =>
      obtain rfl := eq_of_numeric?_decimal hb
      exact (Decimal.onlySignaling_equal _ b).mono fun _ ⟨hf, hp⟩ =>
        ⟨hf, .inr (hp.resolve_left (Decimal.not_hasSignaling_ofNumber a))⟩
    | .decimal a, .number b =>
      obtain rfl := eq_of_numeric?_decimal ha
      exact (Decimal.onlySignaling_equal a _).mono fun _ ⟨hf, hp⟩ =>
        ⟨hf, .inl (hp.resolve_right (Decimal.not_hasSignaling_ofNumber b))⟩
    | .decimal a, .decimal b =>
      obtain rfl := eq_of_numeric?_decimal ha
      obtain rfl := eq_of_numeric?_decimal hb
      exact Decimal.onlySignaling_equal a b
  · exact .ok _

/-- Parts that are not the same are compared. -/
theorem onlySignaling_part {v w v' w' : Value} (h : OnlySignaling v w (v.equal w))
    (hv : v ∈ v'.held) (hw : w ∈ w'.held) :
    OnlySignaling v' w' (if isSamePart v w then .ok true else v.equal w) :=
  .ite (.ok true) (h.of_held hv hw)

theorem mem_held_of_lookup {es : List (String × Value)} {name : String} {v : Value}
    (h : lookup es name = some v) : v ∈ (map es).held := by
  obtain ⟨e, he, rfl⟩ := Option.map_eq_some_iff.1 h
  exact List.mem_map_of_mem (List.mem_of_find?_eq_some he)

mutual

theorem onlySignaling_equal (v w : Value) : OnlySignaling v w (v.equal w) := by
  unfold equal
  split <;> try exact .ok _
  · exact onlySignaling_equalNumeric _ _
  · exact onlySignaling_equalNumeric _ _
  · exact onlySignaling_equalNumeric _ _
  · next vs ws => exact .ite (onlySignaling_equalItems vs ws) (.ok false)
  · next vs ws =>
    exact (onlySignaling_equalItems vs ws).of_subset id id (List.Subset.refl vs)
      (List.Subset.refl ws)
  · next es es' => exact .ite (onlySignaling_equalEntries es es') (.ok false)
  · next os os' => exact .ite (onlySignaling_equalObservations os os') (.ok false)
  · next v t v' t' =>
    refine (onlySignaling_part (onlySignaling_equal v v') List.mem_cons_self
      List.mem_cons_self).bind fun _ => .ite (.ite (.ok true) ?_) (.ok false)
    exact (onlySignaling_equal t t').of_held (List.mem_cons_of_mem _ List.mem_cons_self)
      (List.mem_cons_of_mem _ List.mem_cons_self)
  · next operator vs operator' ws =>
    exact .ite ((onlySignaling_equalItems vs ws).of_subset id id (List.Subset.refl vs)
      (List.Subset.refl ws)) (.ok false)

theorem onlySignaling_equalItems (vs ws : List Value) :
    OnlySignaling (list vs) (list ws) (equalItems vs ws) := by
  unfold equalItems
  split
  · exact .ok true
  · next v vs w ws =>
    refine (onlySignaling_part (onlySignaling_equal v w) List.mem_cons_self
      List.mem_cons_self).bind fun _ => .ite ?_ (.ok false)
    exact (onlySignaling_equalItems vs ws).of_subset id id (List.subset_cons_self v vs)
      (List.subset_cons_self w ws)
  · exact .ok false

theorem onlySignaling_equalEntries (es es' : List (String × Value)) :
    OnlySignaling (map es) (map es') (equalEntries es es') := by
  unfold equalEntries
  split
  · exact .ok true
  · next name v es =>
    split
    · exact .ok false
    · next w hw =>
      refine (onlySignaling_part (onlySignaling_equal v w) List.mem_cons_self
        (mem_held_of_lookup hw)).bind fun _ => .ite ?_ (.ok false)
      exact (onlySignaling_equalEntries es es').of_subset id id (List.subset_cons_self v _)
        (List.Subset.refl _)

theorem onlySignaling_equalObservations (os os' : List (Value × Value)) :
    OnlySignaling (cell os) (cell os') (equalObservations os os') := by
  unfold equalObservations
  split
  · exact .ok true
  · next v t os v' t' os' =>
    refine (onlySignaling_part (onlySignaling_equal v v') List.mem_cons_self
      List.mem_cons_self).bind fun _ => .ite ?_ (.ok false)
    refine (onlySignaling_part (onlySignaling_equal t t')
      (List.mem_cons_of_mem _ List.mem_cons_self)
      (List.mem_cons_of_mem _ List.mem_cons_self)).bind fun _ => .ite ?_ (.ok false)
    exact (onlySignaling_equalObservations os os').of_subset id id
      (List.subset_append_right [v, t] _) (List.subset_append_right [v', t'] _)
  · exact .ok false

end

theorem onlySignaling_sameValue (v w : Value) : OnlySignaling v w (v.sameValue w) := by
  unfold sameValue
  split <;> first | exact .ok _ | exact .ite (onlySignaling_equal _ _) (.ok _)

theorem onlyAnswered_equal (v w : Value) : OnlyAnswered (v.equal w) :=
  (onlySignaling_equal v w).onlyAnswered

theorem onlyAnswered_sameValue (v w : Value) : OnlyAnswered (v.sameValue w) :=
  (onlySignaling_sameValue v w).onlyAnswered

theorem onlyAnswered_equals (v w : Value) : OnlyAnswered (v.equals w) :=
  .ite (.ok _) (.ite (.ok _) (.ite (.ok _) (.ite (.ok _) (onlyAnswered_equal v w))))

end Value

end RecordCalc
