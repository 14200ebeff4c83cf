import RecordCalc.Proofs.Formula.Failures
import RecordCalc.Proofs.Formula.Places
import RecordCalc.Proofs.Formula.Printing

/-
  Which tokens begin a formula. Behind the tokens that the reader has taken in, an operand where one
  has to follow and the brackets that are still open make up a formula
  (`Reading.StandsFor.derives_closed`), so these tokens begin one that is read as long as their
  numerals are readable (`Reading.beginsFormula_iff`). Behind a token that the reader refuses
  nothing does (`Reading.not_beginsFormula_of_step`).
-/

namespace RecordCalc.Formula

/-- The tokens are the first of a formula that is read. -/
def BeginsFormula (ts : List Token) : Prop :=
  ∃ formula e rest, parse formula = .ok e ∧ IsCut formula (ts ++ rest)

/-- Closing brackets. -/
def closings (k : Nat) : List Token := List.replicate k (.symbol .closing)

theorem closings_succ (k : Nat) : closings (k + 1) = .symbol .closing :: closings k :=
  List.replicate_succ

theorem isGood_closings (k : Nat) : ∀ t ∈ closings k, t.IsGood := by
  intro t ht
  rw [List.eq_of_mem_replicate ht]
  exact isGood_symbol .closing

/-! ## Completing what was read -/

section
variable {ts us outer : List Token} {e : Expr} {brackets : List (Pending × Bracket)}

/-- Tokens from which the grammar derives an expression are those of a formula that is read. -/
theorem exists_formula (h : Derives .comparison ts e) (hgood : ∀ t ∈ ts, t.IsGood) :
    ∃ formula, IsCut formula ts ∧ parse formula = .ok e := by
  have hlexeme : ∀ t ∈ ts, Lexeme t := fun t ht => (hgood t ht).lexeme
  have hread : Reading.Readable ts := fun n hn => (hgood _ hn).readable n rfl
  obtain ⟨cs, hspaced⟩ := exists_spaced ts
  have hcut := (isCut_of_spaced hspaced (joined_of_derives h hlexeme) hlexeme).1
  exact ⟨_, hcut, parse_of_means hcut h hread⟩

theorem beginsFormula_of_derives (h : Derives .comparison (ts ++ us) e)
    (hts : ∀ t ∈ ts, t.IsGood) (hus : ∀ t ∈ us, t.IsGood) : BeginsFormula ts := by
  obtain ⟨formula, hcut, hparse⟩ := exists_formula h (List.forall_mem_append.2 ⟨hts, hus⟩)
  exact ⟨formula, e, us, hparse, hcut⟩

/-- An expression in open brackets makes up an expression with the brackets that close them. -/
theorem Opened.derives_closed (h : Opened brackets outer) (he : Derives .comparison ts e) :
    ∃ e', Derives .comparison (outer ++ ts ++ closings brackets.length) e' := by
  induction h generalizing ts e with
  | nil =>
    refine ⟨e, ?_⟩
    simpa only [List.nil_append, List.length_nil, closings, List.replicate_zero,
      List.append_nil] using he
  | group _ hwaiting ih =>
    obtain ⟨e', he'⟩ := ih (hwaiting.derives_close (.group he))
    refine ⟨e', ?_⟩
    simpa only [List.length_cons, closings_succ, List.append_assoc, List.cons_append,
      List.nil_append] using he'
  | call letters _ hwaiting hargs ih =>
    have hcall := Derives.call letters (forall_mem_concat hargs he)
    rw [List.map_append, List.map_singleton, separated_concat] at hcall
    obtain ⟨e', he'⟩ := ih (hwaiting.derives_close hcall)
    refine ⟨e', ?_⟩
    simpa only [List.length_cons, closings_succ, List.append_assoc, List.cons_append,
      List.nil_append] using he'

/-- Whatever the last token left behind, a text or the brackets of a call complete the operand. -/
theorem Phase.StandsFor.completes {phase : Phase} (h : phase.StandsFor ts) :
    ∃ us e, Derives .primary (ts ++ us) e ∧ ∀ t ∈ us, t.IsGood := by
  cases h with
  | wanting justOpened =>
    have hgood : Token.IsGood (.text '"' []) := ⟨.text (Or.inl rfl) .nil, fun _ h => nomatch h⟩
    exact ⟨_, _, .text '"' [], List.forall_mem_singleton.2 hgood⟩
  | numeral n => exact ⟨[], _, .numeral n, List.forall_mem_nil _⟩
  | name letters position =>
    refine ⟨[.symbol .opening, .symbol .closing], _, .call letters (List.forall_mem_nil _), ?_⟩
    exact List.forall_mem_cons.2
      ⟨isGood_symbol _, List.forall_mem_singleton.2 (isGood_symbol _)⟩
  | operand he =>
    exact ⟨[], _, (List.append_nil ts).symm ▸ he, List.forall_mem_nil _⟩

namespace Reading

variable {r r' : Reading}

/-- What was read makes up an expression with an operand where one has to follow, and the brackets
that close those still open. -/
theorem StandsFor.derives_closed (hr : r.StandsFor ts) :
    ∃ us e, Derives .comparison (ts ++ us ++ closings r.brackets.length) e ∧
      ∀ t ∈ us, t.IsGood := by
  obtain ⟨outer, waiting, operand, hbrackets, hpending, hoperand, rfl⟩ := hr.parts
  obtain ⟨us, e, he, hus⟩ := hoperand.completes
  obtain ⟨e', he'⟩ := hbrackets.derives_closed (hpending.derives_close he)
  refine ⟨us, e', ?_, hus⟩
  simpa only [List.append_assoc] using he'

/-- Behind an operand only brackets are missing. -/
theorem StandsFor.derives_closed_operand (hr : r.StandsFor ts) (hphase : r.phase = .operand e) :
    ∃ e', Derives .comparison (ts ++ closings r.brackets.length) e' := by
  obtain ⟨outer, waiting, operand, hbrackets, hpending, hoperand, rfl⟩ := hr.parts
  rw [hphase] at hoperand
  cases hoperand with
  | operand he =>
    obtain ⟨e', he'⟩ := hbrackets.derives_closed (hpending.derives_close he)
    rw [← List.append_assoc] at he'
    exact ⟨e', he'⟩

end Reading

end

/-! ## What a token leaves behind -/

/-- The phases that a token may leave behind it: a numeral or a name is for the next token to
settle. -/
inductive Located.Leaves (t : Located) : Phase → Prop
  | numeral {n : Numeral} : t.token = .numeral n → Leaves t (.numeral n)
  | name {letters : List Char} : t.token = .name letters → Leaves t (.name letters t.position)
  | operand (e : Expr) : (∀ n, t.token ≠ .numeral n) → Leaves t (.operand e)
  | wanting (justOpened : Bool) : (∀ n, t.token ≠ .numeral n) → Leaves t (.wanting justOpened)

/-- A numeral is always left to be settled. -/
theorem Located.Leaves.eq_numeral {t : Located} {phase : Phase} {n : Numeral} (h : t.Leaves phase)
    (ht : t.token = .numeral n) : phase = .numeral n := by
  cases h with
  | numeral hnumeral =>
    rw [ht] at hnumeral
    cases hnumeral
    rfl
  | name hname =>
    rw [ht] at hname
    cases hname
  | operand _ hnot => exact absurd ht (hnot n)
  | wanting _ hnot => exact absurd ht (hnot n)

/-- What the reader refuses a token with. -/
inductive Reading.Refuses (r : Reading) (t : Located) : Failure → Prop
  | unexpected : Refuses r t (.formulaSyntax ⟨.unexpectedToken (String.ofList t.token.chars),
      t.position⟩)
  | unknown {letters : List Char} {position : Nat} : r.phase = .name letters position →
      Refuses r t (.formulaSyntax ⟨.unknownIdentifier (String.ofList letters), position⟩)
  | longInteger (f : Fault) : Refuses r t (.fault f)

/-- What the reader fails with at the end of a text of the given length. -/
inductive Reading.EndsIn (r : Reading) (length : Nat) : Failure → Prop
  | missing : EndsIn r length (.formulaSyntax ⟨.missingParenthesis, length⟩)
  | early : EndsIn r length (.formulaSyntax ⟨.unexpectedEnd, length⟩)
  | unknown {letters : List Char} {position : Nat} : r.phase = .name letters position →
      EndsIn r length (.formulaSyntax ⟨.unknownIdentifier (String.ofList letters), position⟩)
  | longInteger (f : Fault) : EndsIn r length (.fault f)

theorem numeralLiteral_of_not_readable {n : Numeral} (h : ¬ n.IsReadable) :
    numeralLiteral n = .error (.fault (.tooManyDigitsToRead n.whole.length)) := by
  obtain ⟨hwhole, hlong⟩ := Classical.not_imp.1 h
  rw [numeralLiteral, if_pos hwhole, if_pos (Nat.not_le.1 hlong)]

theorem nameLiteral_eq_error {letters : List Char} {position : Nat} {f : Failure}
    (h : nameLiteral letters position = .error f) :
    f = .formulaSyntax ⟨.unknownIdentifier (String.ofList letters), position⟩ := by
  unfold nameLiteral at h
  dsimp only at h
  split at h
  · cases h
  · split at h
    · cases h
    · exact (Except.error.inj h).symm

theorem numeralLiteral_eq_error {n : Numeral} {f : Failure} (h : numeralLiteral n = .error f) :
    ∃ fault, f = .fault fault := by
  by_cases hread : n.IsReadable
  · rw [numeralLiteral_eq hread] at h
    cases h
  · rw [numeralLiteral_of_not_readable hread] at h
    exact ⟨_, (Except.error.inj h).symm⟩

namespace Reading

variable {r r' : Reading} {t : Located} {ts us : List Located} {e : Expr} {f : Failure}
  {length : Nat} {stop : Option (Nat × Char)}

theorem leaves_of_afterOperand (h : r.afterOperand e t = .ok r') : t.Leaves r'.phase := by
  obtain ⟨token, position⟩ := t
  unfold afterOperand at h
  dsimp only at h
  split at h
  · split at h
    · cases h
      exact .operand _ nofun
    · cases h
      exact .operand _ nofun
    · cases h
  · split at h
    · cases h
      exact .wanting _ nofun
    · cases h
  · split at h
    · cases h
      exact .wanting _ nofun
    · cases h
  · cases h

theorem leaves_of_beforeOperand {justOpened : Bool} (h : r.beforeOperand justOpened t = .ok r') :
    t.Leaves r'.phase := by
  obtain ⟨token, position⟩ := t
  unfold beforeOperand at h
  dsimp only at h
  split at h
  · cases h
    exact .numeral rfl
  · cases h
    exact .name rfl
  · cases h
    exact .operand _ nofun
  · cases h
    exact .operand _ nofun
  · cases h
    exact .wanting _ nofun
  · split at h
    · cases h
      exact .operand _ nofun
    · cases h
  · split at h
    · cases h
      exact .wanting _ nofun
    · cases h

theorem leaves_of_step (h : r.step t = .ok r') : t.Leaves r'.phase := by
  unfold step at h
  split at h
  · exact leaves_of_beforeOperand h
  · exact leaves_of_afterOperand h
  · split at h
    · obtain ⟨e, -, h⟩ := Outcomes.bind_eq_ok_iff.1 h
      exact leaves_of_afterOperand h
    · cases h
  · split at h
    · next hopening =>
      cases h
      refine .wanting true fun n hn => ?_
      rw [hopening] at hn
      cases hn
    · split at h
      · obtain ⟨e, -, h⟩ := Outcomes.bind_eq_ok_iff.1 h
        exact leaves_of_afterOperand h
      · cases h

theorem refuses_of_afterOperand (h : r.afterOperand e t = .error f) :
    f = .formulaSyntax ⟨.unexpectedToken (String.ofList t.token.chars), t.position⟩ := by
  unfold afterOperand at h
  repeat' split at h
  all_goals first | exact (Except.error.inj h).symm | cases h

theorem refuses_of_beforeOperand {justOpened : Bool}
    (h : r.beforeOperand justOpened t = .error f) :
    f = .formulaSyntax ⟨.unexpectedToken (String.ofList t.token.chars), t.position⟩ := by
  unfold beforeOperand at h
  repeat' split at h
  all_goals first | exact (Except.error.inj h).symm | cases h

theorem refuses_of_step (h : r.step t = .error f) : r.Refuses t f := by
  unfold step at h
  split at h
  · rw [refuses_of_beforeOperand h]
    exact .unexpected
  · rw [refuses_of_afterOperand h]
    exact .unexpected
  · split at h
    · rcases Outcomes.bind_eq_error_iff.1 h with h | ⟨e, -, h⟩
      · obtain ⟨fault, rfl⟩ := numeralLiteral_eq_error h
        exact .longInteger fault
      · rw [refuses_of_afterOperand h]
        exact .unexpected
    · cases h
      exact .unexpected
  · next letters position hphase =>
    split at h
    · cases h
    · split at h
      · rcases Outcomes.bind_eq_error_iff.1 h with h | ⟨e, -, h⟩
        · rw [nameLiteral_eq_error h]
          exact .unknown hphase
        · rw [refuses_of_afterOperand h]
          exact .unexpected
      · cases h
        exact .unexpected

theorem endsIn_of_finish (h : r.finish length = .error f) : r.EndsIn length f := by
  have hend : ∀ e, r.endOperand e length = .error f → r.EndsIn length f := by
    intro e h
    unfold endOperand at h
    split at h
    · cases h
    · cases h
      exact .missing
  unfold finish at h
  split at h
  · cases h
    exact .missing
  · cases h
    exact .early
  · exact hend _ h
  · rcases Outcomes.bind_eq_error_iff.1 h with h | ⟨e, -, h⟩
    · obtain ⟨fault, rfl⟩ := numeralLiteral_eq_error h
      exact .longInteger fault
    · exact hend e h
  · next letters position hphase =>
    rcases Outcomes.bind_eq_error_iff.1 h with h | ⟨e, -, h⟩
    · rw [nameLiteral_eq_error h]
      exact .unknown hphase
    · exact hend e h

/-! ## Runs -/

/-- Some tokens are refused at the first that the reader refuses. -/
theorem steps_eq_error_iff :
    r.steps ts = .error f ↔
      ∃ before t after r', ts = before ++ t :: after ∧ r.steps before = .ok r' ∧
        r'.step t = .error f := by
  induction ts generalizing r with
  | nil => exact iff_of_false nofun (by simp)
  | cons t ts ih =>
    rw [steps, List.foldlM_cons, Outcomes.bind_eq_error_iff]
    constructor
    · rintro (hstep | ⟨r₁, hstep, hrest⟩)
      · exact ⟨[], t, ts, r, rfl, rfl, hstep⟩
      · obtain ⟨before, t', after, r', rfl, hbefore, hstep'⟩ := ih.1 hrest
        refine ⟨t :: before, t', after, r', rfl, ?_, hstep'⟩
        rw [steps, List.foldlM_cons, hstep]
        exact hbefore
    · rintro ⟨before, t', after, r', hsplit, hbefore, hstep'⟩
      cases before with
      | nil =>
        obtain ⟨rfl, rfl⟩ := List.cons.inj hsplit
        cases hbefore
        exact .inl hstep'
      | cons t₁ before =>
        obtain ⟨rfl, rfl⟩ := List.cons.inj hsplit
        rw [steps, List.foldlM_cons] at hbefore
        obtain ⟨r₁, hstep, hbefore⟩ := Outcomes.bind_eq_ok_iff.1 hbefore
        exact .inr ⟨r₁, hstep, ih.2 ⟨before, t', after, r', rfl, hbefore, hstep'⟩⟩

theorem steps_concat : r.steps (ts ++ [t]) = .ok r' ↔
    ∃ r₁, r.steps ts = .ok r₁ ∧ r₁.step t = .ok r' := by
  rw [steps_append, Outcomes.bind_eq_ok_iff]
  simp only [steps, List.foldlM_cons, List.foldlM_nil, bind_pure]

theorem StandsFor.steps {tokens : List Token} (hr : r.StandsFor tokens)
    (h : r.steps ts = .ok r') : r'.StandsFor (tokens ++ ts.map (·.token)) := by
  induction ts generalizing r tokens with
  | nil =>
    cases h
    rw [List.map_nil, List.append_nil]
    exact hr
  | cons t ts ih =>
    rw [Reading.steps, List.foldlM_cons] at h
    obtain ⟨r₁, hstep, h⟩ := Outcomes.bind_eq_ok_iff.1 h
    have hrest := ih (hr.step hstep) h
    rw [List.append_assoc] at hrest
    exact hrest

/-- A name still to be settled is the token read last. -/
theorem exists_of_phase_name (h : start.steps ts = .ok r) {letters : List Char} {position : Nat}
    (hphase : r.phase = .name letters position) :
    ∃ before r', ts = before ++ [⟨.name letters, position⟩] ∧ start.steps before = .ok r' := by
  rcases List.eq_nil_or_concat ts with rfl | ⟨before, t, rfl⟩
  · cases h
    cases hphase
  · rw [List.concat_eq_append, steps_concat] at h
    obtain ⟨r', hbefore, hstep⟩ := h
    have hleaves := leaves_of_step hstep
    rw [hphase] at hleaves
    obtain ⟨token, q⟩ := t
    cases hleaves with
    | name hname =>
      obtain rfl : token = .name letters := hname
      exact ⟨before, r', List.concat_eq_append, hbefore⟩

/-! ## Readable numerals -/

/-- Every numeral was readable, but for one that is still to be settled. -/
def Settled (r : Reading) (tokens : List Token) : Prop :=
  ∀ n, .numeral n ∈ tokens → n.IsReadable ∨ r.phase = .numeral n

/-- A numeral that a token settled was readable. -/
theorem isReadable_of_step {n : Numeral} (hphase : r.phase = .numeral n)
    (h : r.step t = .ok r') : n.IsReadable := by
  by_contra hread
  unfold step at h
  rw [hphase] at h
  dsimp only at h
  rw [numeralLiteral_of_not_readable hread] at h
  split at h <;> cases h

theorem settled_of_step {tokens : List Token} (hr : r.Settled tokens) (h : r.step t = .ok r') :
    r'.Settled (tokens ++ [t.token]) := by
  intro n hn
  rcases List.mem_append.1 hn with hn | hn
  · rcases hr n hn with hread | hphase
    · exact Or.inl hread
    · exact Or.inl (isReadable_of_step hphase h)
  · have ht : t.token = .numeral n := (List.mem_singleton.1 hn).symm
    exact Or.inr ((leaves_of_step h).eq_numeral ht)

theorem settled_of_steps (h : start.steps ts = .ok r) : r.Settled (ts.map (·.token)) := by
  induction ts using List.reverseRecOn generalizing r with
  | nil => exact fun n hn => nomatch hn
  | append_singleton ts t ih =>
    obtain ⟨r', hts, hstep⟩ := steps_concat.1 h
    rw [List.map_append]
    exact settled_of_step (ih hts) hstep

/-- Where a formula ends in a syntax error of its own or is read, its last numeral was readable. -/
theorem isReadable_of_finish {n : Numeral} (hphase : r.phase = .numeral n)
    (h : ∀ fault, r.finish length ≠ .error (.fault fault)) : n.IsReadable := by
  by_contra hread
  refine h (.tooManyDigitsToRead n.whole.length) ?_
  unfold finish
  rw [hphase]
  dsimp only
  rw [numeralLiteral_of_not_readable hread]
  rfl

theorem readable_of_finish (h : start.steps ts = .ok r)
    (hfinish : ∀ fault, r.finish length ≠ .error (.fault fault)) :
    Readable (ts.map (·.token)) := by
  intro n hn
  rcases settled_of_steps h n hn with hread | hphase
  · exact hread
  · exact isReadable_of_finish hphase hfinish

/-- The numerals of a formula that is read are readable. -/
theorem readable_of_run (h : start.run length stop ts = .ok e) : Readable (ts.map (·.token)) := by
  rw [run_eq] at h
  obtain ⟨r, hsteps, hend⟩ := Outcomes.bind_eq_ok_iff.1 h
  cases stop with
  | some found => cases hend
  | none =>
    have hfinish : r.finish length = .ok e := hend
    refine @readable_of_finish r ts length hsteps fun fault hfault => ?_
    rw [hfinish] at hfault
    cases hfault

end Reading

/-- A formula that is read has tokens, and reading these comes to its expression. -/
theorem run_of_parse {formula : String} {e : Expr} (h : parse formula = .ok e) :
    ∃ located, CutAt 0 (blankEquals formula.toList) located none ∧
      Reading.start.run formula.length none located = .ok e := by
  obtain ⟨ts, hcut, -⟩ := means_of_parse h
  obtain ⟨hstop, -⟩ := isCut_iff.1 hcut
  have htokens := cutAt_tokens (blankEquals formula.toList)
  unfold parse at h
  dsimp only at h
  split at h
  · cases h
  · rw [hstop] at htokens
    rw [hstop, length_blankEquals] at h
    exact ⟨_, htokens, h⟩

theorem readable_of_parse {formula : String} {ts : List Token} {e : Expr}
    (h : parse formula = .ok e) (hcut : IsCut formula ts) : Reading.Readable ts := by
  obtain ⟨located, htokens, hrun⟩ := run_of_parse h
  obtain rfl := (isCut_iff.1 (isCut_of_cutAt htokens)).2.symm.trans (isCut_iff.1 hcut).2
  exact Reading.readable_of_run hrun

/-! ## Formulas that are not read -/

/-- How reading a formula fails: there is nothing to read, a token is refused, no token starts at a
character, or the end comes too early. -/
inductive Rejects (formula : String) : Failure → Prop
  | empty : (blankEquals formula.toList).all Text.isBlank = true →
      Rejects formula (.formulaSyntax ⟨.empty, 0⟩)
  | refused {before after : List Located} {t : Located} {stop : Option (Nat × Char)} {r : Reading}
      {f : Failure} : CutAt 0 (blankEquals formula.toList) (before ++ t :: after) stop →
      Reading.start.steps before = .ok r → r.step t = .error f → Rejects formula f
  | stopped {located : List Located} {q : Nat} {c : Char} {r : Reading} :
      CutAt 0 (blankEquals formula.toList) located (some (q, c)) →
      Reading.start.steps located = .ok r → Rejects formula (.formulaSyntax (stopError q c))
  | ended {located : List Located} {r : Reading} {f : Failure} :
      CutAt 0 (blankEquals formula.toList) located none → Reading.start.steps located = .ok r →
      r.finish formula.length = .error f → Rejects formula f

theorem rejects_of_parse {formula : String} {f : Failure} (h : parse formula = .error f) :
    Rejects formula f := by
  have hcut := cutAt_tokens (blankEquals formula.toList)
  unfold parse at h
  dsimp only at h
  split at h
  · next hblank =>
    cases h
    exact .empty hblank
  · rw [Reading.run_eq, length_blankEquals] at h
    rcases Outcomes.bind_eq_error_iff.1 h with hsteps | ⟨r, hsteps, hend⟩
    · obtain ⟨before, t, after, r, hsplit, hbefore, hstep⟩ := Reading.steps_eq_error_iff.1 hsteps
      exact .refused (hsplit ▸ hcut) hbefore hstep
    · cases hstop : (tokens (blankEquals formula.toList)).stop with
      | some found =>
        rw [hstop] at hcut hend
        obtain rfl := Except.error.inj hend
        exact .stopped hcut hsteps
      | none =>
        rw [hstop] at hcut hend
        exact .ended hcut hsteps hend

/-! ## Tokens that begin a formula -/

namespace Reading

variable {r : Reading} {t : Located} {ts : List Located} {f : Failure}

/-- Some tokens that the reader has taken in begin a formula as long as their numerals are
readable. -/
theorem beginsFormula_iff (h : start.steps ts = .ok r) (hlexeme : ∀ t ∈ ts, Lexeme t.token) :
    BeginsFormula (ts.map (·.token)) ↔ Readable (ts.map (·.token)) := by
  constructor
  · rintro ⟨formula, e, rest, hparse, hcut⟩
    exact (readable_of_parse hparse hcut).of_subset fun t ht => List.mem_append_left _ ht
  · intro hread
    have hgood : ∀ t ∈ ts.map (·.token), t.IsGood := by
      intro t ht
      obtain ⟨t', ht', rfl⟩ := List.mem_map.1 ht
      exact ⟨hlexeme t' ht', fun n hn => hread n (hn ▸ ht)⟩
    obtain ⟨us, e, he, hus⟩ := (standsFor_start.steps h).derives_closed
    rw [List.append_assoc] at he
    exact beginsFormula_of_derives he hgood (List.forall_mem_append.2 ⟨hus, isGood_closings _⟩)

/-- No formula begins with some tokens and one that the reader refuses behind them. -/
theorem not_beginsFormula_of_step (h : start.steps ts = .ok r) (hstep : r.step t = .error f) :
    ¬ BeginsFormula ((ts ++ [t]).map (·.token)) := by
  rintro ⟨formula, e, rest, hparse, hcut⟩
  have hread := readable_of_parse hparse hcut
  obtain ⟨ts', hcut', hderives⟩ := means_of_parse hparse
  obtain rfl : ts' = (ts ++ [t]).map (·.token) ++ rest :=
    (isCut_iff.1 hcut').2.symm.trans (isCut_iff.1 hcut).2
  -- the rest may stand anywhere, as its places only count in errors
  have hlocated : (ts ++ t :: rest.map fun t' => (⟨t', 0⟩ : Located)).map (·.token) =
      (ts ++ [t]).map (·.token) ++ rest := by
    simp [Function.comp_def]
  rw [← hlocated] at hread hderives
  have hrun := run_of_derives hderives hread 0
  rw [run_eq, steps_append_cons h, hstep] at hrun
  cases hrun

end Reading

end RecordCalc.Formula
