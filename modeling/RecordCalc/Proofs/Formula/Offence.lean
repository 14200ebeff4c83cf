import RecordCalc.Proofs.Formula.Viability

/-
  Syntax errors point at the offence (`pointsAt_of_parse`): what the message quotes stands at the
  place of the error, what is before it begins a formula, and it cannot go on as the text does. The
  tokens before it begin one that is read exactly when their numerals are readable; an integer with
  more digits than are read is in no such formula (`not_beginsFormula_longInteger`).
-/

namespace RecordCalc

/-! ## What a message quotes -/

/-- What the words of a syntax error quote. -/
def SyntaxCause.quoted? : SyntaxCause → Option String
  | .unknownIdentifier name => some name
  | .unexpectedToken text => some text
  | .unexpectedCharacter c => some (String.ofList [c])
  | .empty | .unterminatedText | .unterminatedField | .missingParenthesis | .unexpectedEnd => none

namespace SyntaxError

variable {e : SyntaxError} {before text after : String}

theorem quote_not_mem_place (n : Nat) :
    '\'' ∉ (" at position " ++ toString n).toList := by
  intro hmem
  rw [String.toList_append] at hmem
  rcases List.mem_append.1 hmem with hmem | hmem
  · revert hmem
    decide
  · rw [Nat.toString_eq_repr, Nat.repr_eq_ofList_toDigits, String.toList_ofList] at hmem
    have hdigit := Nat.isDigit_of_mem_toDigits (by decide) (by decide) hmem
    revert hdigit
    decide

theorem message_of_quoted (h : e.cause.quoted? = some text) :
    ∃ before after : String, e.message = before ++ "'" ++ text ++ "'" ++ after ∧
      '\'' ∉ before.toList ∧ '\'' ∉ after.toList := by
  obtain ⟨cause, position⟩ := e
  cases cause with
  | unknownIdentifier name =>
    cases h
    exact ⟨"Unknown identifier ", "", by simp [message, String.append_assoc], by decide, by decide⟩
  | unexpectedToken name =>
    cases h
    refine ⟨"Unexpected token ", " at position " ++ toString position, ?_, by decide,
      quote_not_mem_place position⟩
    simp [message, String.append_assoc]
  | unexpectedCharacter c =>
    cases h
    refine ⟨"Unexpected character ", " at position " ++ toString position, ?_, by decide,
      quote_not_mem_place position⟩
    simp [message, String.append_assoc]
  | empty | unterminatedText | unterminatedField | missingParenthesis | unexpectedEnd => cases h

theorem quote_not_mem_message (h : e.cause.quoted? = none) : '\'' ∉ e.message.toList := by
  obtain ⟨cause, position⟩ := e
  cases cause with
  | unknownIdentifier | unexpectedToken | unexpectedCharacter => cases h
  | empty | missingParenthesis | unexpectedEnd =>
    simp only [message]
    decide
  | unterminatedText | unterminatedField =>
    simp only [message]
    rw [String.toList_append, List.mem_append]
    exact not_or.2 ⟨by decide, quote_not_mem_place position⟩

/-- What stands between the first quote of a message and the last is what its cause quotes. -/
theorem quoted_of_message (h : e.message = before ++ "'" ++ text ++ "'" ++ after)
    (hbefore : '\'' ∉ before.toList) (hafter : '\'' ∉ after.toList) :
    e.cause.quoted? = some text := by
  have hlist : e.message.toList =
      before.toList ++ '\'' :: (text.toList ++ '\'' :: after.toList) := by
    rw [h]
    simp
  cases hquoted : e.cause.quoted? with
  | none =>
    have hnone := quote_not_mem_message hquoted
    rw [hlist] at hnone
    exact absurd (List.mem_append_right _ List.mem_cons_self) hnone
  | some text' =>
    obtain ⟨before', after', hmessage, hbefore', hafter'⟩ := message_of_quoted hquoted
    have hlist' : e.message.toList =
        before'.toList ++ '\'' :: (text'.toList ++ '\'' :: after'.toList) := by
      rw [hmessage]
      simp
    rw [hlist'] at hlist
    obtain ⟨-, hrest⟩ := Lists.eq_of_append_cons hbefore' hbefore hlist
    -- read backwards, the last quote is the first
    have hback := congrArg List.reverse hrest
    simp only [List.reverse_append, List.reverse_cons, List.append_assoc,
      List.singleton_append] at hback
    obtain ⟨-, htext⟩ := Lists.eq_of_append_cons (by simpa using hafter') (by simpa using hafter)
      hback
    rw [String.ext (List.reverse_injective htext)]

end SyntaxError

namespace Formula

/-! ## Errors that point at the offence -/

/-- The tokens of a formula that end before a place. -/
def tokensBefore (formula : String) (position : Nat) : List Token :=
  endingBefore position (tokens (blankEquals formula.toList)).located

/-- A syntax error points at the offence in a formula. -/
structure PointsAt (formula : String) (e : SyntaxError) : Prop where
  within : e.position ≤ formula.length
  /-- What the message quotes stands at the place. -/
  quotes : ∀ before text after : String, e.message = before ++ "'" ++ text ++ "'" ++ after →
    '\'' ∉ before.toList → '\'' ∉ after.toList →
    text.toList <+: formula.toList.drop e.position
  /-- What ends before the place begins a formula, as long as its numerals are readable. -/
  begins : BeginsFormula (tokensBefore formula e.position) ↔
    Reading.Readable (tokensBefore formula e.position)
  /-- No formula goes on with an unexpected token. -/
  unexpected : ∀ text, e.cause = .unexpectedToken text → ∃ t, Lexeme t ∧ t.chars = text.toList ∧
    ¬ BeginsFormula (tokensBefore formula e.position ++ [t])
  /-- Where a text, a field or a character is at fault, no token starts. -/
  bare : e.cause = .unterminatedText ∨ e.cause = .unterminatedField ∨
    (∃ c, e.cause = .unexpectedCharacter c) → NoToken (formula.toList.drop e.position)
  /-- Where the formula ends too early, all its tokens begin one. -/
  ending : e.cause = .missingParenthesis ∨ e.cause = .unexpectedEnd →
    e.position = formula.length ∧ ∃ ts, IsCut formula ts ∧ BeginsFormula ts

section
variable {formula : String} {e : SyntaxError} {located before after : List Located} {t : Located}
  {r : Reading} {stop : Option (Nat × Char)}

theorem tokensBefore_eq (hcut : CutAt 0 (blankEquals formula.toList) located stop)
    (position : Nat) : tokensBefore formula position = endingBefore position located := by
  rw [tokensBefore, tokens, cutAt_iff.1 hcut]

/-- A token stands at its place in the formula. -/
theorem prefix_of_token (hcut : CutAt 0 (blankEquals formula.toList) located stop)
    (ht : t ∈ located) : t.token.chars <+: formula.toList.drop t.position := by
  obtain ⟨front, rest, hsource, hplace⟩ := hcut.token_at ht
  obtain ⟨c, letters, hchars, hblank⟩ := (hcut.lexeme t ht).head
  rw [hchars, List.cons_append] at hsource
  obtain ⟨rest', hdrop, hrest⟩ := (unsigned_blankEquals formula.toList).drop_eq hsource
    (not_isGap_of_not_isBlank hblank)
  rw [Nat.zero_add] at hplace
  rw [hplace, hdrop, hrest hblank, hchars]
  exact ⟨rest, rfl⟩

/-- An error that quotes the token where it stands points at it. -/
theorem pointsAt_token
    (hcut : CutAt 0 (blankEquals formula.toList) (before ++ t :: after) stop)
    (hsteps : Reading.start.steps before = .ok r) (hplace : e.position = t.position)
    (hcause : e.cause = .unknownIdentifier (String.ofList t.token.chars) ∨
      e.cause = .unexpectedToken (String.ofList t.token.chars) ∧ Fails (r.step t)) :
    PointsAt formula e := by
  have hmem : t ∈ before ++ t :: after := List.mem_append_right _ List.mem_cons_self
  have hbefore : tokensBefore formula e.position = before.map (·.token) := by
    rw [tokensBefore_eq hcut, hplace, hcut.endingBefore_split]
  have hlexeme : ∀ t' ∈ before, Lexeme t'.token :=
    fun t' ht' => hcut.lexeme t' (List.mem_append_left _ ht')
  constructor
  case within =>
    have hend := (hcut.within t hmem).2
    rw [length_blankEquals, Located.finish] at hend
    omega
  case quotes =>
    intro front text back hmessage hfront hback
    have hquoted := SyntaxError.quoted_of_message hmessage hfront hback
    have htext : text = String.ofList t.token.chars := by
      rcases hcause with hcause | ⟨hcause, -⟩
      · rw [hcause] at hquoted
        exact (Option.some.inj hquoted).symm
      · rw [hcause] at hquoted
        exact (Option.some.inj hquoted).symm
    rw [htext, String.toList_ofList, hplace]
    exact prefix_of_token hcut hmem
  case begins =>
    rw [hbefore]
    exact Reading.beginsFormula_iff hsteps hlexeme
  case unexpected =>
    intro text htext
    rcases hcause with hcause | ⟨hcause, f, hstep⟩
    · rw [hcause] at htext
      cases htext
    · rw [hcause] at htext
      cases htext
      refine ⟨t.token, hcut.lexeme t hmem, (String.toList_ofList).symm, ?_⟩
      have hnot := Reading.not_beginsFormula_of_step hsteps hstep
      rw [List.map_append, List.map_singleton] at hnot
      rw [hbefore]
      exact hnot
  case bare =>
    intro hbare
    rcases hcause with hcause | ⟨hcause, -⟩ <;> simp [hcause] at hbare
  case ending =>
    intro hending
    rcases hcause with hcause | ⟨hcause, -⟩ <;> simp [hcause] at hending

/-- The error of a character that starts no token points at it. -/
theorem pointsAt_stop {q : Nat} {c : Char}
    (hcut : CutAt 0 (blankEquals formula.toList) located (some (q, c)))
    (hsteps : Reading.start.steps located = .ok r) : PointsAt formula (stopError q c) := by
  obtain ⟨⟨front, rest, hsource, hplace, hnone⟩, hgap, hall⟩ := hcut.stop_at
  rw [Nat.zero_add] at hplace
  obtain ⟨rest', hdrop, hrest⟩ := (unsigned_blankEquals formula.toList).drop_eq hsource hgap
  rw [← hplace] at hdrop
  have hposition : (stopError q c).position = q := by
    unfold stopError
    split
    · rfl
    · split <;> rfl
  have hcause : (stopError q c).cause = .unterminatedText ∨
      (stopError q c).cause = .unterminatedField ∨
        (stopError q c).cause = .unexpectedCharacter c := by
    unfold stopError
    split
    · exact Or.inl rfl
    · split
      · exact Or.inr (Or.inl rfl)
      · exact Or.inr (Or.inr rfl)
  have hbefore : tokensBefore formula q = located.map (·.token) := by
    rw [tokensBefore_eq hcut, endingBefore_all hall]
  constructor
  case within =>
    have hlength := congrArg List.length hsource
    rw [length_blankEquals, List.length_append, List.length_cons] at hlength
    omega
  case quotes =>
    intro front text back hmessage hfront hback
    have hquoted := SyntaxError.quoted_of_message hmessage hfront hback
    rcases hcause with hcause | hcause | hcause
    · rw [hcause] at hquoted
      cases hquoted
    · rw [hcause] at hquoted
      cases hquoted
    · rw [hcause] at hquoted
      cases hquoted
      rw [hposition, hdrop, String.toList_ofList]
      exact ⟨rest', rfl⟩
  case begins =>
    rw [hposition, hbefore]
    exact Reading.beginsFormula_iff hsteps hcut.lexeme
  case unexpected =>
    intro text htext
    rcases hcause with hcause | hcause | hcause <;> rw [hcause] at htext <;> cases htext
  case bare =>
    intro _
    rw [hposition, hdrop]
    by_cases hblank : Text.isBlank c = true
    · -- a blank that is no gap starts no token, whatever comes behind it
      intro t ht hfront
      obtain ⟨c', letters, hchars, hc'⟩ := ht.head
      rw [hchars] at hfront
      obtain ⟨rfl, -⟩ := List.cons_prefix_cons.1 hfront
      rw [hblank] at hc'
      cases hc'
    · rw [hrest (Bool.not_eq_true _ ▸ hblank)]
      exact hnone
  case ending =>
    intro hending
    rcases hcause with hcause | hcause | hcause <;> simp [hcause] at hending

/-- The error of a formula that ends too early points at its end. -/
theorem pointsAt_end (hcut : CutAt 0 (blankEquals formula.toList) located none)
    (hsteps : Reading.start.steps located = .ok r)
    (hread : Reading.Readable (located.map (·.token))) (hplace : e.position = formula.length)
    (hcause : e.cause = .missingParenthesis ∨ e.cause = .unexpectedEnd) : PointsAt formula e := by
  have hbegins := Reading.beginsFormula_iff hsteps hcut.lexeme
  have hbefore : tokensBefore formula e.position = located.map (·.token) := by
    rw [tokensBefore_eq hcut, endingBefore_all]
    intro t ht
    have hend := (hcut.within t ht).2
    rw [length_blankEquals] at hend
    omega
  constructor
  case within => exact hplace.le
  case quotes =>
    intro front text back hmessage hfront hback
    have hquoted := SyntaxError.quoted_of_message hmessage hfront hback
    rcases hcause with hcause | hcause <;> rw [hcause] at hquoted <;> cases hquoted
  case begins =>
    rw [hbefore]
    exact hbegins
  case unexpected =>
    intro text htext
    rcases hcause with hcause | hcause <;> rw [hcause] at htext <;> cases htext
  case bare =>
    intro hbare
    rcases hcause with hcause | hcause <;> simp [hcause] at hbare
  case ending =>
    intro _
    exact ⟨hplace, located.map (·.token), isCut_of_cutAt hcut, hbegins.2 hread⟩

/-- The error of an empty formula points at its front. -/
theorem pointsAt_empty (hcut : CutAt 0 (blankEquals formula.toList) located stop) :
    PointsAt formula ⟨.empty, 0⟩ := by
  have hbefore : tokensBefore formula 0 = [] := by
    rw [tokensBefore_eq hcut, endingBefore, List.map_eq_nil_iff, List.filter_eq_nil_iff]
    intro t ht
    have hpos := (hcut.lexeme t ht).length_pos
    rw [decide_eq_true_eq, Located.finish]
    omega
  constructor
  case within => exact Nat.zero_le _
  case quotes =>
    intro front text back hmessage hfront hback
    cases SyntaxError.quoted_of_message hmessage hfront hback
  case begins =>
    rw [hbefore]
    exact @Reading.beginsFormula_iff Reading.start [] rfl (List.forall_mem_nil _)
  -- the other causes are not that of an empty formula
  case unexpected =>
    intro text hcause
    cases hcause
  case bare =>
    rintro (hcause | hcause | ⟨c, hcause⟩) <;> cases hcause
  case ending =>
    rintro (hcause | hcause) <;> cases hcause

/-- Syntax errors point at the offence. -/
theorem pointsAt_of_parse (h : parse formula = .error (.formulaSyntax e)) :
    PointsAt formula e := by
  cases rejects_of_parse h with
  | empty => exact pointsAt_empty (cutAt_tokens _)
  | refused hcut hsteps hstep =>
    cases Reading.refuses_of_step hstep with
    | unexpected => exact pointsAt_token hcut hsteps rfl (Or.inr ⟨rfl, _, hstep⟩)
    | unknown hphase =>
      -- the error is that of the name before the token
      obtain ⟨before, r, rfl, hbefore⟩ := Reading.exists_of_phase_name hsteps hphase
      rw [List.append_assoc] at hcut
      exact pointsAt_token hcut hbefore rfl (Or.inl rfl)
  | stopped hcut hsteps => exact pointsAt_stop hcut hsteps
  | ended hcut hsteps hfinish =>
    have hread := Reading.readable_of_finish hsteps fun fault hfault => by
      rw [hfinish] at hfault
      cases hfault
    cases Reading.endsIn_of_finish hfinish with
    | missing => exact pointsAt_end hcut hsteps hread rfl (Or.inl rfl)
    | early => exact pointsAt_end hcut hsteps hread rfl (Or.inr rfl)
    | unknown hphase =>
      obtain ⟨before, r, rfl, hbefore⟩ := Reading.exists_of_phase_name hsteps hphase
      exact pointsAt_token hcut hbefore rfl (Or.inl rfl)

/-- The operand behind an operand: the tokens `1 + 2` before it begin a formula. -/
theorem pointsAt_of_parse_operand :
    parse "=1 + 2 3" = .error (.formulaSyntax ⟨.unexpectedToken "3", 7⟩) ∧
      PointsAt "=1 + 2 3" ⟨.unexpectedToken "3", 7⟩ :=
  ⟨rfl, pointsAt_of_parse rfl⟩

end

/-! ## An integer that is not read -/

section
variable {digits : List Char}

/-- An integer before a quote that is not closed is the one token of the text. -/
theorem tokens_digits_quote (hdigits : ∀ c ∈ digits, Text.isDigit c) (hne : digits ≠ []) :
    tokens (blankEquals (String.ofList (digits ++ [' ', '"'])).toList) =
      ⟨[⟨.numeral ⟨digits, none, none⟩, 0⟩], some (digits.length + 1, '"')⟩ := by
  have hlexeme : Lexeme (.numeral ⟨digits, none, none⟩) :=
    .numeral ⟨⟨hdigits, by simp, by simpa using hne⟩, by simp⟩
  have hchars : (Token.numeral ⟨digits, none, none⟩).chars = digits := by
    simp [Token.chars, Numeral.toChars]
  have hgap : ∀ c ∈ [' ', '"'].head?, Numeral.goesOn c = false := by
    rintro _ ⟨⟩
    decide
  have hscan := scanToken_chars hlexeme hgap
  have hquote : CutAt (0 + digits.length) [' ', '"'] [] (some (digits.length + 1, '"')) := by
    rw [Nat.zero_add]
    exact .gap rfl (.stop _ rfl (noToken_of_scanToken rfl))
  have hcut := CutAt.token (p := 0) hlexeme (isLongest_of_scanToken hscan) (hchars.symm ▸ hquote)
  rw [hchars] at hcut
  have hsource : blankEquals (digits ++ [' ', '"']) = digits ++ [' ', '"'] := by
    refine blankEquals_of_unsigned (@Unsigned.plain [] _ (List.forall_mem_nil _) fun c hc => ?_)
    obtain ⟨d, rest, rfl⟩ := List.exists_cons_of_ne_nil hne
    cases hc
    have hdigit := hdigits _ List.mem_cons_self
    refine ⟨not_isBlank_of_isDigit hdigit, ?_⟩
    rintro rfl
    revert hdigit
    decide
  rw [String.toList_ofList, hsource]
  exact cutAt_iff.1 hcut

theorem parse_digits_quote (hdigits : ∀ c ∈ digits, Text.isDigit c) (hne : digits ≠ []) :
    parse (String.ofList (digits ++ [' ', '"'])) =
      .error (.formulaSyntax ⟨.unterminatedText, digits.length + 1⟩) := by
  have htokens := tokens_digits_quote hdigits hne
  have hquote : ¬ (blankEquals (String.ofList (digits ++ [' ', '"'])).toList).all
      Text.isBlank = true := by
    intro hall
    have hcut := cutAt_tokens (blankEquals (String.ofList (digits ++ [' ', '"'])).toList)
    rw [htokens] at hcut
    obtain ⟨⟨before, rest, hsource, -⟩, -⟩ := hcut.stop_at
    rw [hsource, List.all_append, List.all_cons] at hall
    simp [Text.isBlank] at hall
  unfold parse
  dsimp only
  rw [if_neg hquote, htokens]
  rfl

theorem not_beginsFormula_digits_quote (hdigits : ∀ c ∈ digits, Text.isDigit c)
    (hlong : Fault.digitLimit < digits.length) :
    ¬ BeginsFormula (tokensBefore (String.ofList (digits ++ [' ', '"'])) (digits.length + 1)) := by
  rintro ⟨formula, e, rest, hparse, hcut⟩
  have hnumeral : .numeral ⟨digits, none, none⟩ ∈
      tokensBefore (String.ofList (digits ++ [' ', '"'])) (digits.length + 1) := by
    rw [tokensBefore, tokens_digits_quote hdigits (List.ne_nil_of_length_pos (by omega)),
      endingBefore_all]
    · exact List.mem_singleton_self _
    · refine List.forall_mem_singleton.2 ?_
      simp [Located.finish, Token.chars, Numeral.toChars]
  have hread := readable_of_parse hparse hcut _ (List.mem_append_left _ hnumeral) rfl
  dsimp only at hread
  omega

end

/-- The tokens before a quote that is not closed begin no formula where one of them is an integer
with more digits than are read. -/
theorem not_beginsFormula_longInteger :
    let formula := String.ofList (List.replicate 4301 '9' ++ [' ', '"'])
    parse formula = .error (.formulaSyntax ⟨.unterminatedText, 4302⟩) ∧
      ¬ BeginsFormula (tokensBefore formula 4302) := by
  have hlength : (List.replicate 4301 '9').length = 4301 := List.length_replicate
  have hdigits : ∀ c ∈ List.replicate 4301 '9', Text.isDigit c = true := by
    intro c hc
    rw [List.eq_of_mem_replicate hc]
    decide
  have hlong : Fault.digitLimit < (List.replicate 4301 '9').length := by
    rw [hlength]
    decide
  have hparse := parse_digits_quote hdigits (List.ne_nil_of_length_pos (by omega))
  have hnot := not_beginsFormula_digits_quote hdigits hlong
  rw [hlength] at hparse hnot
  exact ⟨hparse, hnot⟩

end Formula

end RecordCalc
