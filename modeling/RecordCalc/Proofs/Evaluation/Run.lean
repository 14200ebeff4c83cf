import RecordCalc.Evaluation.Run
import RecordCalc.Proofs.Outcomes

/-
  Runs as computations that go on. They are a lawful monad, and what a run comes to is fixed by what
  its parts come to, whatever rules they apply (`bind_outcome_congr`). A relation between values is
  lifted to runs: it holds of two runs when it holds of their values, should both end in one. Runs
  that go on with related values stay related (`Related.bind`), so a relation of two evaluations is
  proved one operation at a time.
-/

namespace RecordCalc.Run

variable {α β γ δ : Type} {R : α → β → Prop} {S : γ → δ → Prop}

theorem bind_outcome_ok {a : Run α} {f : α → Run γ} {y : γ} (h : (a >>= f).outcome = .ok y) :
    ∃ x, a.outcome = .ok x ∧ (f x).outcome = .ok y := by
  obtain ⟨outcome, uses⟩ := a
  cases outcome with
  | error e => cases h
  | ok x => exact ⟨x, rfl, h⟩

theorem map_id (r : Run α) : id <$> r = r := by
  obtain ⟨outcome, uses⟩ := r
  cases outcome with
  | error e => rfl
  | ok a => simp [Functor.map, andThen, done]

theorem bind_assoc (r : Run α) (f : α → Run γ) (g : γ → Run δ) :
    r >>= f >>= g = r >>= fun a => f a >>= g := by
  obtain ⟨outcome, uses⟩ := r
  cases outcome with
  | error e => rfl
  | ok a =>
    simp only [bind, andThen]
    cases (f a).outcome with
    | error e => rfl
    | ok b => simp

instance : LawfulMonad Run := LawfulMonad.mk' Run map_id (fun _ _ => rfl) bind_assoc

theorem bind_outcome_of_ok {a : Run α} {x : α} (h : a.outcome = .ok x) (f : α → Run γ) :
    (a >>= f).outcome = (f x).outcome := by
  obtain ⟨outcome, uses⟩ := a
  cases h
  rfl

theorem bind_outcome_of_error {a : Run α} {e : Failure} (h : a.outcome = .error e)
    (f : α → Run γ) : (a >>= f).outcome = .error e := by
  obtain ⟨outcome, uses⟩ := a
  cases h
  rfl

theorem bind_outcome (a : Run α) (f : α → Run γ) :
    (a >>= f).outcome = a.outcome >>= fun x => (f x).outcome := by
  obtain ⟨outcome, uses⟩ := a
  cases outcome <;> rfl

theorem bind_outcome_error_iff {a : Run α} {f : α → Run γ} {e : Failure} :
    (a >>= f).outcome = .error e ↔
      a.outcome = .error e ∨ ∃ x, a.outcome = .ok x ∧ (f x).outcome = .error e := by
  rw [bind_outcome, Outcomes.bind_eq_error_iff]

/-- What a run that goes on comes to is fixed by what it comes to before. -/
theorem bind_outcome_congr {a b : Run α} {f g : α → Run γ} (h : a.outcome = b.outcome)
    (hfg : ∀ x, a.outcome = .ok x → (f x).outcome = (g x).outcome) :
    (a >>= f).outcome = (b >>= g).outcome := by
  obtain ⟨outcome, uses⟩ := a
  obtain ⟨outcome', uses'⟩ := b
  cases h
  cases outcome with
  | error e => rfl
  | ok x => exact hfg x rfl

theorem ofExcept_ok_bind (x : α) (f : α → Run γ) : (ofExcept (.ok x) >>= f) = f x := rfl

theorem ofFaulty_outcome_ok {a : Except Fault α} {x : α} (h : (ofFaulty a).outcome = .ok x) :
    a = .ok x := by
  cases a with
  | ok y =>
    cases h
    rfl
  | error f => cases h

theorem ofFaulty_outcome_fault {a : Except Fault α} {f : Fault}
    (h : (ofFaulty a).outcome = .error (.fault f)) : a = .error f := by
  cases a with
  | ok x => cases h
  | error f' =>
    cases h
    rfl

/-- The values of two runs are related, if both end in a value. -/
def Related (R : α → β → Prop) (a : Run α) (b : Run β) : Prop :=
  ∀ x y, a.outcome = .ok x → b.outcome = .ok y → R x y

theorem Related.done {x : α} {y : β} (h : R x y) : Related R (done x) (done y) := by
  intro x' y' hx hy
  cases hx
  cases hy
  exact h

theorem Related.fail_left (e : Failure) (b : Run β) : Related R (fail e) b := by
  intro x y hx
  cases hx

/-- A run is related to itself when its values are. -/
theorem Related.same {R : α → α → Prop} {a : Run α}
    (h : ∀ x, a.outcome = .ok x → R x x) : Related R a a := by
  intro x y hx hy
  cases hx.symm.trans hy
  exact h x hx

theorem Related.ite {c : Prop} [Decidable c] {a a' : Run α} {b b' : Run β}
    (h : Related R a b) (h' : Related R a' b') :
    Related R (if c then a else a') (if c then b else b') := by
  split
  · exact h
  · exact h'

theorem Related.bind {a : Run α} {b : Run β} {f : α → Run γ} {g : β → Run δ}
    (h : Related R a b) (hf : ∀ x y, R x y → Related S (f x) (g y)) :
    Related S (a >>= f) (b >>= g) := by
  intro x y hx hy
  obtain ⟨x', ha, hx'⟩ := bind_outcome_ok hx
  obtain ⟨y', hb, hy'⟩ := bind_outcome_ok hy
  exact hf x' y' (h x' y' ha hb) x y hx' hy'

end RecordCalc.Run
