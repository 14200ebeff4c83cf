import RecordCalc.Proofs.Formula.Places

/-
  A leading equals sign changes nothing but places. A text with some gaps put before it is cut into
  the same tokens, each moved by their number (`CutAt.moved`). The reader looks at the places of
  tokens only where it fails, so it reads moved tokens as before and fails with a moved error
  (`Reading.run_moved`); and so a formula with a sign before it reads as it does without
  (`parse_signed`).
-/

namespace RecordCalc

/-! ## Moving -/

/-- A failure at a place that is moved; only syntax errors have one. -/
def Failure.moved (d : Nat) : Failure → Failure
  | formulaSyntax e => formulaSyntax ⟨e.cause, e.position + d⟩
  | f => f

namespace Formula

/-- A token at a place that is moved. -/
def Located.moved (d : Nat) (t : Located) : Located := ⟨t.token, t.position + d⟩

/-- A name that is still to be settled, at a place that is moved. -/
def Phase.moved (d : Nat) : Phase → Phase
  | .name letters position => .name letters (position + d)
  | phase => phase

namespace Reading

/-- The state of reading a text that is moved. -/
def moved (d : Nat) (r : Reading) : Reading := ⟨r.brackets, r.pending, r.phase.moved d⟩

/-- What a step comes to in a text that is moved. -/
def movedResult (d : Nat) (x : Except Failure Reading) : Except Failure Reading :=
  (x.map (moved d)).mapError (Failure.moved d)

end Reading

/-! ## Tokens -/

section
variable {p : Nat} {cs gaps : List Char} {ts : List Located} {stop : Option (Nat × Char)}

/-- A text at another place is cut into the same tokens. -/
theorem CutAt.moved (h : CutAt p cs ts stop) (d : Nat) :
    CutAt (p + d) cs (ts.map (Located.moved d)) (stop.map fun found => (found.1 + d, found.2)) := by
  induction h with
  | nil p => exact .nil _
  | stop p hgap hnone => exact .stop _ hgap hnone
  | gap hgap _ ih =>
    rw [Nat.add_right_comm] at ih
    exact .gap hgap ih
  | token ht hlongest _ ih =>
    rw [Nat.add_right_comm] at ih
    exact .token ht hlongest ih

theorem CutAt.behind_gaps (hgaps : ∀ c ∈ gaps, isGap c = true)
    (h : CutAt (p + gaps.length) cs ts stop) : CutAt p (gaps ++ cs) ts stop := by
  induction gaps generalizing p with
  | nil => exact h
  | cons c gaps ih =>
    obtain ⟨hc, hgaps⟩ := List.forall_mem_cons.1 hgaps
    refine .gap hc (ih hgaps ?_)
    rw [List.length_cons, Nat.add_comm gaps.length 1, ← Nat.add_assoc] at h
    exact h

/-- Gaps before a text move its tokens by their number. -/
theorem CutAt.behind (h : CutAt 0 cs ts stop) (hgaps : ∀ c ∈ gaps, isGap c = true) :
    CutAt 0 (gaps ++ cs) (ts.map (Located.moved gaps.length))
      (stop.map fun found => (found.1 + gaps.length, found.2)) :=
  .behind_gaps hgaps (h.moved gaps.length)

end

/-! ## Reading -/

theorem nameLiteral_moved (letters : List Char) (position d : Nat) :
    nameLiteral letters (position + d) =
      (nameLiteral letters position).mapError (Failure.moved d) := by
  unfold nameLiteral
  dsimp only
  split
  · rfl
  · split <;> rfl

theorem numeralLiteral_moved (n : Numeral) (d : Nat) :
    numeralLiteral n = (numeralLiteral n).mapError (Failure.moved d) := by
  unfold numeralLiteral
  split
  · split <;> rfl
  · rfl

theorem stopError_moved (position : Nat) (c : Char) (d : Nat) :
    Failure.formulaSyntax (stopError (position + d) c) =
      (Failure.formulaSyntax (stopError position c)).moved d := by
  unfold stopError
  split
  · rfl
  · split <;> rfl

namespace Reading

variable {r : Reading} {t : Located} {d : Nat}

theorem afterOperand_moved (r : Reading) (e : Expr) (t : Located) (d : Nat) :
    (r.moved d).afterOperand e (t.moved d) = movedResult d (r.afterOperand e t) := by
  obtain ⟨brackets, pending, phase⟩ := r
  obtain ⟨token, position⟩ := t
  cases token with
  | numeral | text | field | name => rfl
  | symbol s =>
    cases s with
    | closing | comma =>
      cases brackets with
      | nil => rfl
      | cons bracket rest =>
        obtain ⟨outer, bracket⟩ := bracket
        cases bracket <;> rfl
    | _ => rfl

theorem beforeOperand_moved (r : Reading) (justOpened : Bool) (t : Located) (d : Nat) :
    (r.moved d).beforeOperand justOpened (t.moved d) =
      movedResult d (r.beforeOperand justOpened t) := by
  obtain ⟨brackets, pending, phase⟩ := r
  obtain ⟨token, position⟩ := t
  cases token with
  | numeral | text | field | name => rfl
  | symbol s =>
    cases s with
    | closing =>
      cases justOpened with
      | false => rfl
      | true =>
        cases brackets with
        | nil => rfl
        | cons bracket rest =>
          obtain ⟨outer, bracket⟩ := bracket
          cases bracket <;> rfl
    | _ => rfl

/-- A literal whose failure moves, and then the token behind it. -/
theorem bind_afterOperand_moved {x x' : Except Failure Expr}
    (hx : x' = x.mapError (Failure.moved d)) :
    (x' >>= fun e => (r.moved d).afterOperand e (t.moved d)) =
      movedResult d (x >>= fun e => r.afterOperand e t) := by
  subst hx
  cases x with
  | error f => rfl
  | ok e => exact afterOperand_moved r e t d

theorem token_moved (t : Located) (d : Nat) : (t.moved d).token = t.token := rfl

theorem phase_moved (r : Reading) (d : Nat) : (r.moved d).phase = r.phase.moved d := rfl

/-- A step at a token that is moved comes to the same state, or fails at the moved place. -/
theorem step_moved (r : Reading) (t : Located) (d : Nat) :
    (r.moved d).step (t.moved d) = movedResult d (r.step t) := by
  cases hphase : r.phase with
  | wanting justOpened =>
    rw [step, step, phase_moved, hphase]
    dsimp only [Phase.moved]
    exact beforeOperand_moved r justOpened t d
  | operand e =>
    rw [step, step, phase_moved, hphase]
    dsimp only [Phase.moved]
    exact afterOperand_moved r e t d
  | numeral n =>
    rw [step, step, phase_moved, hphase]
    dsimp only [Phase.moved]
    rw [token_moved]
    by_cases hfollow : mayFollow t.token = true
    · rw [if_pos hfollow, if_pos hfollow]
      exact bind_afterOperand_moved (numeralLiteral_moved n d)
    · rw [if_neg hfollow, if_neg hfollow]
      rfl
  | name letters position =>
    rw [step, step, phase_moved, hphase]
    dsimp only [Phase.moved]
    rw [token_moved]
    by_cases hopening : t.token = .symbol .opening
    · rw [if_pos hopening, if_pos hopening]
      rfl
    · rw [if_neg hopening, if_neg hopening]
      by_cases hfollow : mayFollow t.token = true
      · rw [if_pos hfollow, if_pos hfollow]
        exact bind_afterOperand_moved (nameLiteral_moved letters position d)
      · rw [if_neg hfollow, if_neg hfollow]
        rfl

theorem finish_moved (r : Reading) (length d : Nat) :
    (r.moved d).finish (length + d) = (r.finish length).mapError (Failure.moved d) := by
  have hend : ∀ e, (r.moved d).endOperand e (length + d) =
      (r.endOperand e length).mapError (Failure.moved d) := by
    intro e
    rw [endOperand, endOperand, apply_ite (Except.mapError (Failure.moved d))]
    rfl
  have hbind : ∀ x x' : Except Failure Expr, x' = x.mapError (Failure.moved d) →
      (x' >>= fun e => (r.moved d).endOperand e (length + d)) =
        (x >>= fun e => r.endOperand e length).mapError (Failure.moved d) := by
    rintro x _ rfl
    cases x with
    | error f => rfl
    | ok e => exact hend e
  cases hphase : r.phase with
  | wanting justOpened =>
    rw [finish, finish, phase_moved, hphase]
    dsimp only [Phase.moved]
    cases justOpened <;> rfl
  | operand e =>
    rw [finish, finish, phase_moved, hphase]
    dsimp only [Phase.moved]
    exact hend e
  | numeral n =>
    rw [finish, finish, phase_moved, hphase]
    dsimp only [Phase.moved]
    exact hbind _ _ (numeralLiteral_moved n d)
  | name letters position =>
    rw [finish, finish, phase_moved, hphase]
    dsimp only [Phase.moved]
    exact hbind _ _ (nameLiteral_moved letters position d)

/-- A text that is moved is read as before, or fails at the moved place. -/
theorem run_moved (r : Reading) (length : Nat) (stop : Option (Nat × Char)) (ts : List Located)
    (d : Nat) :
    (r.moved d).run (length + d) (stop.map fun found => (found.1 + d, found.2))
        (ts.map (Located.moved d)) =
      (r.run length stop ts).mapError (Failure.moved d) := by
  induction ts generalizing r with
  | nil =>
    cases stop with
    | none => exact finish_moved r length d
    | some found => exact congrArg Except.error (stopError_moved found.1 found.2 d)
  | cons t ts ih =>
    rw [List.map_cons, run, run, step_moved]
    cases hstep : r.step t with
    | error f => rfl
    | ok r' => exact ih r'

end Reading

/-! ## Formulas with a sign -/

/-- The first character of a formula that is no blank. -/
def firstChar? (formula : String) : Option Char := formula.toList.find? fun c => !Text.isBlank c

theorem exists_of_firstChar {formula : String} {c : Char} (h : firstChar? formula = some c) :
    ∃ blanks rest, formula.toList = blanks ++ c :: rest ∧ (∀ b ∈ blanks, Text.isBlank b = true) ∧
      Text.isBlank c = false := by
  obtain ⟨hc, blanks, rest, hsplit, hblanks⟩ := List.find?_eq_some_iff_append.1 h
  refine ⟨blanks, rest, hsplit, fun b hb => ?_, ?_⟩
  · simpa using hblanks b hb
  · simpa using hc

/-- A leading equals sign, with any gaps before it, changes nothing but places: the formula reads as
it does without, or fails with the same cause, as many characters further on as are put before
it. -/
theorem parse_signed {formula gaps : String} {c : Char} (hgaps : ∀ c ∈ gaps.toList, isGap c = true)
    (hfirst : firstChar? formula = some c) (hc : c ≠ '=') :
    parse (gaps ++ "=" ++ formula) =
      (parse formula).mapError (Failure.moved (gaps.length + 1)) := by
  obtain ⟨blanks, rest, hformula, hblanks, hblank⟩ := exists_of_firstChar hfirst
  have hplain : blankEquals formula.toList = formula.toList := by
    rw [hformula]
    refine blankEquals_of_unsigned (.plain hblanks ?_)
    rintro _ ⟨⟩
    exact ⟨hblank, hc⟩
  have hsigned : blankEquals (gaps ++ "=" ++ formula).toList =
      (gaps.toList ++ [' ']) ++ formula.toList := by
    have hsource := blankEquals_of_unsigned (@Unsigned.sign gaps.toList formula.toList
      fun c hc => isBlank_of_isGap (hgaps c hc))
    simpa using hsource
  have hlength : (gaps.toList ++ [' ']).length = gaps.length + 1 := by
    rw [List.length_append, String.length_toList]
    rfl
  have hspaces : ∀ c ∈ gaps.toList ++ [' '], isGap c = true := by
    intro c hc
    rcases List.mem_append.1 hc with hc | hc
    · exact hgaps c hc
    · rw [List.mem_singleton.1 hc]
      rfl
  have hcut := (cutAt_tokens formula.toList).behind hspaces
  rw [hlength] at hcut
  have hmem : c ∈ formula.toList := hformula ▸ by simp
  have hnonblank : ¬ formula.toList.all Text.isBlank = true := by
    intro hall
    rw [List.all_eq_true.1 hall c hmem] at hblank
    cases hblank
  have hnonblank' : ¬ ((gaps.toList ++ [' ']) ++ formula.toList).all Text.isBlank = true := by
    rw [List.all_append, Bool.and_eq_true]
    exact fun h => hnonblank h.2
  have hrun := Reading.run_moved Reading.start formula.toList.length (tokens formula.toList).stop
    (tokens formula.toList).located (gaps.length + 1)
  unfold parse
  dsimp only
  rw [hplain, hsigned, if_neg hnonblank, if_neg hnonblank', tokens, cutAt_iff.1 hcut,
    List.length_append, hlength, Nat.add_comm]
  exact hrun

/-- An operand is missing behind the comma, four places further on than without the sign. -/
theorem parse_signed_call :
    parse (" \t\n" ++ "=" ++ " IF({a},)") =
      (parse " IF({a},)").mapError (Failure.moved 4) ∧
      parse " IF({a},)" = .error (.formulaSyntax ⟨.unexpectedToken ")", 8⟩) :=
  ⟨parse_signed (List.all_eq_true.1 (by decide)) (c := 'I') (by decide) (by decide), rfl⟩

end Formula

end RecordCalc
