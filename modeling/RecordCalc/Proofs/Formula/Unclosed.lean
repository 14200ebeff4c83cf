import RecordCalc.Proofs.Formula.Viability

/-
  Brackets that are not closed. A text is cut into the same tokens when closing brackets are put
  behind it, and the brackets as further tokens. The reader takes in a closing bracket exactly where
  a text that ended there would miss one (`Reading.atClosing`), and so one is missing exactly
  if some are all that the text needs to be read (`missing_iff_closed`).
-/

namespace RecordCalc.Formula

/-- A text of closing brackets. -/
def closingChars (k : Nat) : List Char := List.replicate k ')'

/-! ## Tokens before closing brackets -/

section
variable {p k : Nat} {t : Token} {cs source rest : List Char} {ts : List Located}
  {found : Nat × Char}

/-- No token but the closing bracket ends with one. -/
theorem Lexeme.eq_closing (h : Lexeme t) (hlast : t.chars.getLast? = some ')') :
    t = .symbol .closing := by
  have hmem : ')' ∈ t.chars := List.mem_of_getLast? hlast
  cases h with
  | numeral hn =>
    rcases hn.of_mem hmem with hdigit | hother
    · exact absurd hdigit (by decide)
    · exact absurd hother (by decide)
  | text hquote hbody =>
    rw [Token.chars, List.getLast?_concat] at hlast
    rcases hquote with rfl | rfl <;> exact absurd hlast (by decide)
  | field hbody =>
    rw [Token.chars, List.getLast?_concat] at hlast
    exact absurd hlast (by decide)
  | name hc hletters =>
    rcases List.mem_cons.1 hmem with rfl | hmem
    · exact absurd hc (by decide)
    · exact absurd (hletters _ hmem) (by decide)
  | symbol s =>
    cases s with
    | closing => rfl
    | notEqual angled => cases angled <;> exact absurd hmem (by decide)
    | _ => exact absurd hmem (by decide)

/-- A token at the front of a text with closing brackets behind it reaches into none of these. -/
theorem Lexeme.prefix_of_closings (h : Lexeme t) (hcs : cs ≠ [])
    (hfront : t.chars <+: cs ++ closingChars k) : t.chars <+: cs := by
  rcases List.prefix_or_prefix_of_prefix hfront (List.prefix_append cs _) with hshort | hlong
  · exact hshort
  · obtain ⟨reached, hreached⟩ := hlong
    rw [← hreached] at hfront
    have hsub := (List.prefix_append_right_inj cs).1 hfront
    rcases List.eq_nil_or_concat reached with rfl | ⟨before, c, rfl⟩
    · rw [List.append_nil] at hreached
      exact hreached ▸ List.prefix_rfl
    · -- it would end with a bracket, and be that bracket alone
      have hc : c = ')' := List.eq_of_mem_replicate (hsub.subset (by simp))
      have hclosing := h.eq_closing (by rw [← hreached, hc]; simp)
      have hlength := congrArg List.length hreached
      have hpos := List.length_pos_of_ne_nil hcs
      rw [hclosing, List.length_append, List.length_concat] at hlength
      simp [Token.chars, Symbol.chars] at hlength
      omega

theorem NoToken.closings {c : Char} (h : NoToken (c :: cs)) :
    NoToken (c :: cs ++ closingChars k) :=
  fun t ht hfront => h t ht (ht.prefix_of_closings (List.cons_ne_nil c cs) hfront)

theorem IsLongest.closings (ht : Lexeme t) (h : IsLongest t rest) :
    IsLongest t (rest ++ closingChars k) := by
  intro t' rest' ht' heq
  have hne : t.chars ++ rest ≠ [] := by
    have := ht.length_pos
    rw [← List.length_pos_iff, List.length_append]
    omega
  rw [← List.append_assoc] at heq
  obtain ⟨rest'', hrest⟩ := ht'.prefix_of_closings hne ⟨rest', heq⟩
  exact h t' rest'' ht' hrest

theorem cutAt_closingChars (p k : Nat) :
    ∃ us, us.map (·.token) = closings k ∧ CutAt p (closingChars k) us none := by
  induction k generalizing p with
  | zero => exact ⟨[], rfl, .nil p⟩
  | succ k ih =>
    obtain ⟨us, hus, hcut⟩ := ih (p + 1)
    have hscan : scanToken ((Token.symbol .closing).chars ++ closingChars k) =
        some (.symbol .closing) := rfl
    refine ⟨⟨.symbol .closing, p⟩ :: us, ?_, .token (.symbol _) (isLongest_of_scanToken hscan) hcut⟩
    rw [List.map_cons, hus, closings_succ]

/-- Closing brackets behind a text are further tokens. -/
theorem CutAt.closings (h : CutAt p cs ts none) (k : Nat) :
    ∃ us, us.map (·.token) = closings k ∧ CutAt p (cs ++ closingChars k) (ts ++ us) none := by
  generalize hstop : none = stop at h
  induction h with
  | nil p => exact cutAt_closingChars p k
  | stop => cases hstop
  | gap hgap _ ih =>
    obtain ⟨us, hus, hcut⟩ := ih hstop
    exact ⟨us, hus, .gap hgap hcut⟩
  | token ht hlongest _ ih =>
    obtain ⟨us, hus, hcut⟩ := ih hstop
    rw [List.append_assoc]
    exact ⟨us, hus, .token ht (hlongest.closings ht) hcut⟩

/-- A character that starts no token starts none with closing brackets behind it. -/
theorem CutAt.closings_stop (h : CutAt p cs ts (some found)) (k : Nat) :
    CutAt p (cs ++ closingChars k) ts (some found) := by
  generalize hstop : some found = stop at h
  induction h with
  | nil => cases hstop
  | stop p hgap hnone => exact .stop p hgap hnone.closings
  | gap hgap _ ih => exact .gap hgap (ih hstop)
  | token ht hlongest _ ih =>
    rw [List.append_assoc]
    exact .token ht (hlongest.closings ht) (ih hstop)

theorem Unsigned.closings (h : Unsigned cs source) (k : Nat) :
    Unsigned (cs ++ closingChars k) (source ++ closingChars k) := by
  cases h with
  | sign hblanks =>
    rw [List.append_assoc, List.append_assoc]
    exact .sign hblanks
  | @plain blanks rest hblanks hrest =>
    rw [List.append_assoc]
    refine .plain hblanks fun c hc => ?_
    cases rest with
    | nil =>
      obtain rfl : c = ')' := List.eq_of_mem_replicate (List.mem_of_mem_head? hc)
      decide
    | cons c' rest => exact hrest c hc

end

/-- A formula with closing brackets behind it. -/
def closed (formula : String) (k : Nat) : String := formula ++ String.ofList (closingChars k)

theorem blankEquals_closed (formula : String) (k : Nat) :
    blankEquals (closed formula k).toList = blankEquals formula.toList ++ closingChars k := by
  rw [closed, String.toList_append, String.toList_ofList]
  exact blankEquals_of_unsigned ((unsigned_blankEquals formula.toList).closings k)

/-! ## Reading a closing bracket -/

namespace Reading

variable {r r' : Reading} {t : Located} {e : Expr} {length : Nat}

/-- What becomes of a closing bracket: it is taken in, and has an operand behind it, where a text of
the given length that ended there would miss one, and is refused anywhere else. -/
inductive AtClosing (r : Reading) (t : Located) (length : Nat) : Prop
  | taken {brackets : List (Pending × Bracket)} {outer : Pending} {e : Expr} :
      r.step t = .ok ⟨brackets, outer, .operand e⟩ →
      r.finish length = .error (.formulaSyntax ⟨.missingParenthesis, length⟩) →
      AtClosing r t length
  | refused {f : Failure} : r.step t = .error f →
      r.finish length ≠ .error (.formulaSyntax ⟨.missingParenthesis, length⟩) →
      AtClosing r t length

theorem atClosing_of_holds (h : r.phase.Holds e) (ht : t.token = .symbol .closing)
    (length : Nat) : r.AtClosing t length := by
  have hfinish : r.finish length = r.endOperand e length := finish_of_holds h length
  rw [endOperand] at hfinish
  cases hbrackets : r.brackets with
  | nil =>
    have hstep : r.step t = .error (unexpected t) := by
      rw [step_of_holds h (by rw [ht]; rfl), afterOperand, ht, hbrackets]
    refine .refused hstep fun hmissing => ?_
    rw [hfinish, hbrackets] at hmissing
    cases hmissing
  | cons bracket rest =>
    rw [hbrackets] at hfinish
    obtain ⟨outer, bracket⟩ := bracket
    cases bracket with
    | group => exact .taken (step_closing_group h ht hbrackets) hfinish
    | call name args => exact .taken (step_closing_call h ht hbrackets) hfinish

theorem atClosing {tokens : List Token} (hr : r.StandsFor tokens)
    (ht : t.token = .symbol .closing) (length : Nat) : r.AtClosing t length := by
  have hfollow : mayFollow t.token = true := by
    rw [ht]
    rfl
  have hopening : ¬ t.token = .symbol .opening := by
    rw [ht]
    decide
  cases hphase : r.phase with
  | wanting justOpened =>
    cases justOpened with
    | true =>
      obtain ⟨-, outer, name, rest, hbrackets⟩ := hr.justOpened hphase
      have hstep : r.step t = .ok ⟨rest, outer, .operand (.call name [])⟩ := by
        rw [step, hphase]
        dsimp only
        rw [beforeOperand.eq_def, ht, hbrackets]
        rfl
      exact .taken hstep (by rw [finish, hphase])
    | false =>
      have hstep : r.step t = .error (unexpected t) := by
        rw [step, hphase]
        dsimp only
        rw [beforeOperand.eq_def, ht]
      refine .refused hstep fun hmissing => ?_
      rw [finish, hphase] at hmissing
      cases hmissing
  | operand e => exact atClosing_of_holds (by rw [hphase]; rfl) ht length
  | numeral n =>
    cases hliteral : numeralLiteral n with
    | ok e => exact atClosing_of_holds (by rw [hphase]; exact hliteral) ht length
    | error f =>
      -- a literal that cannot be read fails in front of the bracket and at the end alike
      have hstep : r.step t = .error f := by
        rw [step, hphase]
        dsimp only
        rw [if_pos hfollow, hliteral]
        rfl
      have hfinish : r.finish length = .error f := by
        rw [finish, hphase]
        dsimp only
        rw [hliteral]
        rfl
      obtain ⟨fault, rfl⟩ := numeralLiteral_eq_error hliteral
      refine .refused hstep fun hmissing => ?_
      cases hfinish.symm.trans hmissing
  | name letters position =>
    cases hliteral : nameLiteral letters position with
    | ok e => exact atClosing_of_holds (by rw [hphase]; exact hliteral) ht length
    | error f =>
      have hstep : r.step t = .error f := by
        rw [step, hphase]
        dsimp only
        rw [if_neg hopening, if_pos hfollow, hliteral]
        rfl
      have hfinish : r.finish length = .error f := by
        rw [finish, hphase]
        dsimp only
        rw [hliteral]
        rfl
      have hf := nameLiteral_eq_error hliteral
      refine .refused hstep fun hmissing => ?_
      rw [hfinish, hf] at hmissing
      cases hmissing

end Reading

/-! ## Formulas that miss brackets -/

section
variable {formula : String} {e : Expr} {f : Failure}

theorem head?_toList_append {s : String} {c : Char} (h : s.toList.head? = some c) (s' : String) :
    (s ++ s').toList.head? = some c := by
  rw [String.toList_append, List.head?_append, h]
  rfl

/-- The message of a missing bracket starts like that of no other failure of reading. -/
theorem eq_missing_of_message {ts : List Token} (hf : ReadingFails ts f)
    (hmessage : f.message.toList.head? = some 'M') :
    ∃ position, f = .formulaSyntax ⟨.missingParenthesis, position⟩ := by
  have hother : (∃ c ∈ ['E', 'F', 'U'], f.message.toList.head? = some c) ∨
      ∃ position, f = .formulaSyntax ⟨.missingParenthesis, position⟩ := by
    cases hf with
    | longInteger =>
      exact Or.inl ⟨'E', by decide, head?_toList_append (head?_toList_append (by decide) _) _⟩
    | syntaxError error =>
      obtain ⟨cause, position⟩ := error
      cases cause with
      | missingParenthesis => exact Or.inr ⟨position, rfl⟩
      | empty =>
        have hhead : "Formula is empty".toList.head? = some 'F' := by decide
        exact Or.inl ⟨'F', by decide, hhead⟩
      | unexpectedEnd =>
        have hhead : "Unexpected end of formula".toList.head? = some 'U' := by decide
        exact Or.inl ⟨'U', by decide, hhead⟩
      | unterminatedText | unterminatedField =>
        exact Or.inl ⟨'U', by decide, head?_toList_append (by decide) _⟩
      | unknownIdentifier =>
        exact Or.inl ⟨'U', by decide, head?_toList_append (head?_toList_append (by decide) _) _⟩
      | unexpectedToken | unexpectedCharacter =>
        exact Or.inl ⟨'U', by decide, head?_toList_append
          (head?_toList_append (head?_toList_append (by decide) _) _) _⟩
  rcases hother with ⟨c, hc, hhead⟩ | hmissing
  · rw [hmessage] at hhead
    cases hhead
    exact absurd hc (by decide)
  · exact hmissing

/-- A formula that misses a bracket has tokens that the reader takes in, and their end is too
early. -/
theorem exists_of_missing {position : Nat}
    (h : parse formula = .error (.formulaSyntax ⟨.missingParenthesis, position⟩)) :
    ∃ located r, CutAt 0 (blankEquals formula.toList) located none ∧
      Reading.start.steps located = .ok r ∧ r.finish formula.length =
        .error (.formulaSyntax ⟨.missingParenthesis, formula.length⟩) := by
  generalize hf : Failure.formulaSyntax ⟨.missingParenthesis, position⟩ = f at h
  cases rejects_of_parse h with
  | empty => cases hf
  | refused _ _ hstep =>
    subst hf
    cases Reading.refuses_of_step hstep
  | stopped =>
    unfold stopError at hf
    split at hf
    · cases hf
    · split at hf <;> cases hf
  | ended hcut hsteps hfinish =>
    subst hf
    cases Reading.endsIn_of_finish hfinish
    exact ⟨_, _, hcut, hsteps, hfinish⟩

/-- A formula with closing brackets behind it has these as further tokens. -/
theorem cutAt_closed {located : List Located}
    (hcut : CutAt 0 (blankEquals formula.toList) located none) (k : Nat) :
    ∃ us, us.map (·.token) = closings k ∧
      CutAt 0 (blankEquals (closed formula k).toList) (located ++ us) none := by
  rw [blankEquals_closed]
  exact hcut.closings k

/-- A formula that misses a bracket is read when some brackets are closed. -/
theorem exists_parse_closed {position : Nat}
    (h : parse formula = .error (.formulaSyntax ⟨.missingParenthesis, position⟩)) :
    ∃ k ≥ 1, ∃ e, parse (closed formula k) = .ok e := by
  obtain ⟨located, r, hcut, hsteps, hfinish⟩ := exists_of_missing h
  have hr := Reading.standsFor_start.steps hsteps
  rw [List.nil_append] at hr
  -- the first bracket completes an operand, behind which the others are all that is missing
  obtain ⟨brackets, outer, e, hstep⟩ : ∃ brackets outer e,
      r.step ⟨.symbol .closing, 0⟩ = .ok ⟨brackets, outer, .operand e⟩ := by
    cases @Reading.atClosing r ⟨.symbol .closing, 0⟩ _ hr rfl formula.length with
    | taken hstep _ => exact ⟨_, _, _, hstep⟩
    | refused _ hnot => exact absurd hfinish hnot
  have hread : Reading.Readable (located.map (·.token) ++ [.symbol .closing]) := by
    intro n hn
    rcases Reading.settled_of_step (Reading.settled_of_steps hsteps) hstep n hn with hread | hphase
    · exact hread
    · cases hphase
  obtain ⟨e', hderives⟩ := (hr.step hstep).derives_closed_operand rfl
  rw [List.append_assoc, List.singleton_append, ← closings_succ] at hderives
  obtain ⟨us, hus, hcut'⟩ := cutAt_closed hcut (brackets.length + 1)
  have hisCut := isCut_of_cutAt hcut'
  rw [List.map_append, hus] at hisCut
  refine ⟨brackets.length + 1, by omega, e', parse_of_means hisCut hderives ?_⟩
  intro n hn
  refine hread n ?_
  rcases List.mem_append.1 hn with hn | hn
  · exact List.mem_append_left _ hn
  · cases List.eq_of_mem_replicate hn

/-- A formula that is not read, and is when some brackets are closed, misses one. -/
theorem missing_of_closed (h : parse formula = .error f) {k : Nat} (hk : k ≥ 1)
    (hclosed : parse (closed formula k) = .ok e) :
    f = .formulaSyntax ⟨.missingParenthesis, formula.length⟩ := by
  obtain ⟨k, rfl⟩ := Nat.exists_eq_add_of_le' hk
  obtain ⟨all, hall, hrun⟩ := run_of_parse hclosed
  -- the text without the brackets has no character that starts no token
  obtain ⟨located, hcut⟩ : ∃ located, CutAt 0 (blankEquals formula.toList) located none := by
    have hcut := cutAt_tokens (blankEquals formula.toList)
    cases hstop : (tokens (blankEquals formula.toList)).stop with
    | none => exact ⟨_, hstop ▸ hcut⟩
    | some found =>
      rw [hstop] at hcut
      have hclosings := hcut.closings_stop (k + 1)
      rw [← blankEquals_closed] at hclosings
      cases (hall.unique hclosings).2
  obtain ⟨us, hus, hcut'⟩ := cutAt_closed hcut (k + 1)
  obtain ⟨rfl, -⟩ := hall.unique hcut'
  obtain ⟨t, us, rfl, ht, -⟩ := List.map_eq_cons_iff.1 hus
  rw [Reading.run_eq] at hrun
  obtain ⟨last, hsteps, -⟩ := Outcomes.bind_eq_ok_iff.1 hrun
  rw [Reading.steps_append] at hsteps
  obtain ⟨r, hsteps, hrest⟩ := Outcomes.bind_eq_ok_iff.1 hsteps
  rw [Reading.steps, List.foldlM_cons] at hrest
  obtain ⟨r', hstep, -⟩ := Outcomes.bind_eq_ok_iff.1 hrest
  have hfinish : r.finish formula.length =
      .error (.formulaSyntax ⟨.missingParenthesis, formula.length⟩) := by
    cases Reading.atClosing (Reading.standsFor_start.steps hsteps) ht formula.length with
    | taken _ hfinish => exact hfinish
    | refused hrefused _ =>
      rw [hstep] at hrefused
      cases hrefused
  cases rejects_of_parse h with
  | empty hblank =>
    -- before the brackets stands nothing, where a bracket is not missing
    have hnil : located = [] := by
      have hlexes := tokens_iff.1 ⟨congrArg Tokens.stop (cutAt_iff.1 hcut), rfl⟩
      have hmap := hlexes.eq_nil_of_blank fun c hc => List.all_eq_true.1 hblank c hc
      rw [tokens, cutAt_iff.1 hcut] at hmap
      exact List.map_eq_nil_iff.1 hmap
    subst hnil
    cases hsteps
    cases hfinish
  | refused hcut' hbefore hrefused =>
    obtain ⟨rfl, -⟩ := hcut.unique hcut'
    rw [Reading.steps_append_cons hbefore, hrefused] at hsteps
    cases hsteps
  | stopped hcut' => cases (hcut.unique hcut').2
  | ended hcut' hsteps' hend =>
    obtain ⟨rfl, -⟩ := hcut.unique hcut'
    rw [hsteps] at hsteps'
    cases hsteps'
    rw [hfinish] at hend
    exact (Except.error.inj hend).symm

/-- A closing bracket is missing exactly if the formula is not read, but is read with some closing
brackets behind it. -/
theorem missing_iff_closed (formula : String) :
    (∃ f, parse formula = .error f ∧ f.message = "Missing closing parenthesis") ↔
      Fails (parse formula) ∧
        ∃ k ≥ 1, ∃ e, parse (formula ++ String.ofList (List.replicate k ')')) = .ok e := by
  constructor
  · rintro ⟨f, h, hmessage⟩
    obtain ⟨position, rfl⟩ := eq_missing_of_message (failsOnly_parse formula f h)
      (by rw [hmessage]; decide)
    exact ⟨⟨_, h⟩, exists_parse_closed h⟩
  · rintro ⟨⟨f, h⟩, k, hk, e, hclosed⟩
    have hf := missing_of_closed h hk hclosed
    exact ⟨f, h, by rw [hf]; rfl⟩

end

end RecordCalc.Formula
