import RecordCalc.Proofs.Lists

/-
  What computations that may fail come to: one that goes on, and a list that is read item by item, a
  failure ending the reading. `Fails` says that a computation fails, however it does.
-/

namespace RecordCalc.Outcomes

variable {α β ε : Type} {x : Except ε α} {f : α → Except ε β} {a : α} {b : β} {e : ε}

theorem ok_bind (a : α) (f : α → Except ε β) : (.ok a >>= f) = f a := rfl

theorem bind_eq_ok_iff : (x >>= f) = .ok b ↔ ∃ a, x = .ok a ∧ f a = .ok b := by
  cases x <;> simp [bind, Except.bind]

theorem bind_eq_error_iff :
    (x >>= f) = .error e ↔ x = .error e ∨ ∃ a, x = .ok a ∧ f a = .error e := by
  cases x <;> simp [bind, Except.bind]

theorem map_eq_ok_iff {f : α → β} : f <$> x = .ok b ↔ ∃ a, x = .ok a ∧ f a = b := by
  cases x <;> simp [Functor.map, Except.map]

/-- A reading comes to a list when every item is read, in their order. -/
theorem mapM_eq_ok_iff {as : List α} {bs : List β} :
    as.mapM f = .ok bs ↔ List.Forall₂ (fun a b => f a = .ok b) as bs := by
  induction as generalizing bs with
  | nil => simp [pure, Except.pure, eq_comm]
  | cons a as ih =>
    simp only [List.mapM_cons, bind_eq_ok_iff, ih, List.forall₂_cons_left_iff, pure, Except.pure,
      Except.ok.injEq]
    constructor
    · rintro ⟨b, hb, bs', hbs, rfl⟩
      exact ⟨b, bs', hb, hbs, rfl⟩
    · rintro ⟨b, bs', hb, hbs, rfl⟩
      exact ⟨b, hb, bs', hbs, rfl⟩

/-- A reading fails at the first item that cannot be read. -/
theorem mapM_eq_error_iff {as : List α} :
    as.mapM f = .error e ↔
      ∃ before a after bs, as = before ++ a :: after ∧ before.mapM f = .ok bs ∧ f a = .error e := by
  induction as with
  | nil => simp [pure, Except.pure]
  | cons a as ih =>
    rw [List.mapM_cons, bind_eq_error_iff]
    constructor
    · rintro (ha | ⟨b, hb, hrest⟩)
      · exact ⟨[], a, as, [], rfl, rfl, ha⟩
      · have has : as.mapM f = .error e := by
          rcases bind_eq_error_iff.1 hrest with has | ⟨bs, -, hpure⟩
          · exact has
          · cases hpure
        obtain ⟨before, a', after, bs, rfl, hbefore, ha'⟩ := ih.1 has
        exact ⟨a :: before, a', after, b :: bs, rfl, by rw [List.mapM_cons, hb, hbefore]; rfl, ha'⟩
    · rintro ⟨before, a', after, bs, hsplit, hbefore, ha'⟩
      cases before with
      | nil =>
        obtain ⟨rfl, rfl⟩ := List.cons.inj hsplit
        exact .inl ha'
      | cons b before =>
        obtain ⟨rfl, rfl⟩ := List.cons.inj hsplit
        rw [List.mapM_cons] at hbefore
        obtain ⟨b', hb', hrest⟩ := bind_eq_ok_iff.1 hbefore
        obtain ⟨bs', hbs', -⟩ := bind_eq_ok_iff.1 hrest
        refine .inr ⟨b', hb', bind_eq_error_iff.2 (.inl (ih.2 ?_))⟩
        exact ⟨before, a', after, bs', rfl, hbs', ha'⟩

/-- In a reading that comes to a list every item is read. -/
theorem exists_of_mapM {as : List α} {bs : List β} (h : as.mapM f = .ok bs) (ha : a ∈ as) :
    ∃ b, f a = .ok b := by
  obtain ⟨b, -, hb⟩ := Lists.exists_of_mem (mapM_eq_ok_iff.1 h) ha
  exact ⟨b, hb⟩

end RecordCalc.Outcomes

namespace RecordCalc

variable {ε α β : Type} {x : Except ε α} {f : α → Except ε β}

/-- The computation fails. -/
def Fails (x : Except ε α) : Prop := ∃ e, x = .error e

@[simp] theorem fails_error (e : ε) : Fails (.error e : Except ε α) := ⟨e, rfl⟩

@[simp] theorem not_fails_ok (a : α) : ¬ Fails (.ok a : Except ε α) := nofun

@[simp] theorem not_fails_pure (a : α) : ¬ Fails (pure a : Except ε α) := nofun

theorem not_fails_iff : ¬ Fails x ↔ ∃ a, x = .ok a := by
  cases x with
  | error e => exact iff_of_false (not_not.2 (fails_error e)) nofun
  | ok a => exact iff_of_true (not_fails_ok a) ⟨a, rfl⟩

/-- A computation goes on with what it came to, and may fail there. -/
theorem fails_bind : Fails (x >>= f) ↔ Fails x ∨ ∃ a, x = .ok a ∧ Fails (f a) := by
  cases x with
  | error e => exact iff_of_true ⟨e, rfl⟩ (.inl ⟨e, rfl⟩)
  | ok a => simp [bind, Except.bind]

/-- What follows fails under a condition of its own, whatever came before. -/
theorem fails_andThen {q : Prop} (hf : ∀ a, Fails (f a) ↔ q) : Fails (x >>= f) ↔ Fails x ∨ q := by
  cases x with
  | error e => exact iff_of_true ⟨e, rfl⟩ (.inl ⟨e, rfl⟩)
  | ok a => exact (hf a).trans (or_iff_right (not_fails_ok a)).symm

@[simp] theorem fails_map (f : α → β) : Fails (f <$> x) ↔ Fails x := by
  cases x with
  | error e => exact iff_of_true ⟨e, rfl⟩ ⟨e, rfl⟩
  | ok a => exact iff_of_false nofun nofun

theorem fails_ite {c : Prop} [Decidable c] {x y : Except ε α} :
    Fails (if c then x else y) ↔ c ∧ Fails x ∨ ¬ c ∧ Fails y := by
  split
  next hc => simp [hc]
  next hc => simp [hc]

/-- A list is not read when one of its items is not. -/
theorem fails_mapM {as : List α} : Fails (as.mapM f) ↔ ∃ a ∈ as, Fails (f a) := by
  induction as with
  | nil => simp
  | cons a as ih =>
    rw [List.mapM_cons, fails_andThen (q := ∃ a ∈ as, Fails (f a))]
    · simp
    · intro b
      rw [← ih, fails_andThen fun _ => iff_of_false (not_fails_pure _) id, or_false]

/-- A fold fails where what it came to so far and the next item do not go together. -/
theorem fails_foldlM {f : β → α → Except ε β} {b : β} {as : List α} :
    Fails (as.foldlM f b) ↔ ∃ before a after c,
      as = before ++ a :: after ∧ before.foldlM f b = .ok c ∧ Fails (f c a) := by
  induction as generalizing b with
  | nil => exact iff_of_false (not_fails_pure b) (by simp)
  | cons a as ih =>
    rw [List.foldlM_cons, fails_bind]
    constructor
    · rintro (hb | ⟨c, hc, h⟩)
      · exact ⟨[], a, as, b, rfl, rfl, hb⟩
      · obtain ⟨before, a', after, d, rfl, hd, h⟩ := ih.1 h
        refine ⟨a :: before, a', after, d, rfl, ?_, h⟩
        rw [List.foldlM_cons, hc]
        exact hd
    · rintro ⟨before, a', after, d, hsplit, hd, h⟩
      cases before with
      | nil =>
        obtain ⟨rfl, rfl⟩ := List.cons.inj hsplit
        cases hd
        exact .inl h
      | cons _ before =>
        obtain ⟨rfl, rfl⟩ := List.cons.inj hsplit
        rw [List.foldlM_cons] at hd
        obtain ⟨c, hc, hd⟩ := Outcomes.bind_eq_ok_iff.1 hd
        exact .inr ⟨c, hc, ih.2 ⟨before, a', after, d, rfl, hd, h⟩⟩

end RecordCalc
