import RecordCalc.Proofs.Formula.Meaning
import RecordCalc.Proofs.Value.Faults

/-
  What reading a formula fails with: a syntax error, or the fault of an integer with more digits
  than are read (`failsOnly_parse`). A formula that is just such an integer fails with that fault
  (`parse_longInteger`).
-/

namespace RecordCalc.Formula

/-- What reading may fail with when the formula has the given tokens. -/
inductive ReadingFails (tokens : List Token) : Failure → Prop
  | syntaxError (e : SyntaxError) : ReadingFails tokens (.formulaSyntax e)
  | longInteger {n : Numeral} : .numeral n ∈ tokens → n.isWhole = true →
      Fault.digitLimit < n.whole.length →
      ReadingFails tokens (.fault (.tooManyDigitsToRead n.whole.length))

section
variable {tokens : List Token}

theorem failsOnly_numeralLiteral {n : Numeral} (h : .numeral n ∈ tokens) :
    FailsOnly (ReadingFails tokens) (numeralLiteral n) := by
  unfold numeralLiteral
  split
  · next hwhole =>
    split
    · next hlong => exact .error (.longInteger h hwhole hlong)
    · exact .ok _
  · exact .ok _

theorem failsOnly_nameLiteral (letters : List Char) (position : Nat) :
    FailsOnly (ReadingFails tokens) (nameLiteral letters position) :=
  .ite (.ok _) (.ite (.ok _) (.error (.syntaxError _)))

namespace Reading

variable {r : Reading} {t : Located}

theorem failsOnly_afterOperand (e : Expr) :
    FailsOnly (ReadingFails tokens) (r.afterOperand e t) := by
  unfold afterOperand
  repeat' split
  all_goals first | exact .ok _ | exact .error (.syntaxError _)

theorem failsOnly_beforeOperand (justOpened : Bool) :
    FailsOnly (ReadingFails tokens) (r.beforeOperand justOpened t) := by
  unfold beforeOperand
  repeat' split
  all_goals first | exact .ok _ | exact .error (.syntaxError _)

theorem failsOnly_step (h : ∀ n, r.phase = .numeral n → .numeral n ∈ tokens) :
    FailsOnly (ReadingFails tokens) (r.step t) := by
  unfold step
  split
  · exact failsOnly_beforeOperand _
  · exact failsOnly_afterOperand _
  · next n hphase =>
    exact .ite ((failsOnly_numeralLiteral (h n hphase)).bind failsOnly_afterOperand)
      (.error (.syntaxError _))
  · exact .ite (.ok _) (.ite ((failsOnly_nameLiteral _ _).bind failsOnly_afterOperand)
      (.error (.syntaxError _)))

theorem failsOnly_finish (h : ∀ n, r.phase = .numeral n → .numeral n ∈ tokens) (length : Nat) :
    FailsOnly (ReadingFails tokens) (r.finish length) := by
  have hend : ∀ e, FailsOnly (ReadingFails tokens) (r.endOperand e length) :=
    fun e => .ite (.ok _) (.error (.syntaxError _))
  unfold finish
  split
  · exact .error (.syntaxError _)
  · exact .error (.syntaxError _)
  · exact hend _
  · next n hphase => exact (failsOnly_numeralLiteral (h n hphase)).bind hend
  · exact (failsOnly_nameLiteral _ _).bind hend

/-- A numeral that is still open was read. -/
theorem StandsFor.mem_of_numeral {ts : List Token} (h : r.StandsFor ts) {n : Numeral}
    (hphase : r.phase = .numeral n) : .numeral n ∈ ts := by
  obtain ⟨outer, waiting, operand, -, -, hoperand, rfl⟩ := h.parts
  rw [hphase] at hoperand
  cases hoperand
  exact List.mem_append_right _ (List.mem_singleton_self _)

theorem StandsFor.failsOnly_run {ts : List Token} {rest : List Located} (hr : r.StandsFor ts)
    (length : Nat) (stop : Option (Nat × Char)) :
    FailsOnly (ReadingFails (ts ++ rest.map (·.token))) (r.run length stop rest) := by
  have hphase : ∀ n, r.phase = .numeral n → .numeral n ∈ ts ++ rest.map (·.token) :=
    fun n hn => List.mem_append_left _ (hr.mem_of_numeral hn)
  induction rest generalizing r ts with
  | nil =>
    cases stop with
    | some found => exact .error (.syntaxError _)
    | none => exact failsOnly_finish hphase length
  | cons t rest ih =>
    rw [Reading.run]
    cases hstep : r.step t with
    | error f => exact .error (failsOnly_step hphase f hstep)
    | ok r' =>
      have hr' := hr.step hstep
      have hrest := ih hr' fun n hn => List.mem_append_left _ (hr'.mem_of_numeral hn)
      rw [List.append_assoc] at hrest
      exact hrest

end Reading

end

/-- Reading a formula fails with a syntax error, or at an integer with too many digits. -/
theorem failsOnly_parse (formula : String) :
    FailsOnly (ReadingFails ((tokens (blankEquals formula.toList)).located.map (·.token)))
      (parse formula) :=
  .ite (.error (.syntaxError _)) (Reading.standsFor_start.failsOnly_run _ _)

/-! ## A formula that is an integer -/

theorem isCut_digits {digits : List Char} (hdigits : ∀ c ∈ digits, Text.isDigit c)
    (hne : digits ≠ []) : IsCut (String.ofList digits) [.numeral ⟨digits, none, none⟩] := by
  refine ⟨digits, ?_, ?_⟩
  · rw [String.toList_ofList]
    refine @Unsigned.plain [] digits (fun _ hc => nomatch hc) fun c hc => ?_
    have hdigit := hdigits c (List.mem_of_mem_head? hc)
    refine ⟨not_isBlank_of_isDigit hdigit, ?_⟩
    rintro rfl
    revert hdigit
    decide
  · have hlexeme : Lexeme (.numeral ⟨digits, none, none⟩) :=
      .numeral ⟨⟨hdigits, by simp, by simpa using hne⟩, by simp⟩
    have hscan : scanToken ((Token.numeral ⟨digits, none, none⟩).chars ++ []) =
        some (.numeral ⟨digits, none, none⟩) := scanToken_chars hlexeme fun _ hc => nomatch hc
    have hlexes := Lexes.token hlexeme (isLongest_of_scanToken hscan) .nil
    have hchars : (Token.numeral ⟨digits, none, none⟩).chars = digits := by
      simp [Token.chars, Numeral.toChars]
    rwa [hchars, List.append_nil] at hlexes

/-- An integer with too many digits is not read, though the grammar has it. -/
theorem parse_longInteger {digits : List Char} (hdigits : ∀ c ∈ digits, Text.isDigit c)
    (hlong : Fault.digitLimit < digits.length) :
    parse (String.ofList digits) = .error (.fault (.tooManyDigitsToRead digits.length)) := by
  have hne : digits ≠ [] := List.ne_nil_of_length_pos (Nat.zero_lt_of_lt hlong)
  obtain ⟨length, located, htokens, hrun⟩ := parse_eq_run (isCut_digits hdigits hne) (by simp)
  obtain ⟨t, rest, rfl, ht, hrest⟩ := List.map_eq_cons_iff.1 htokens
  obtain rfl : rest = [] := List.map_eq_nil_iff.1 hrest
  have hstep : Reading.start.step t =
      .ok { Reading.start with phase := .numeral ⟨digits, none, none⟩ } := by
    unfold Reading.step Reading.beforeOperand Reading.start
    rw [ht]
  have hliteral : numeralLiteral ⟨digits, none, none⟩ =
      .error (.fault (.tooManyDigitsToRead digits.length)) := by
    rw [numeralLiteral, if_pos (by rfl), if_pos hlong]
  rw [hrun, Reading.run, hstep]
  change (numeralLiteral _ >>= _) = _
  rw [hliteral]
  rfl

end RecordCalc.Formula
