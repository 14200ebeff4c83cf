import RecordCalc.Proofs.Formula.Meaning

/-
  Where the tokens of a text stand. A text is cut into tokens, each with the place of its first
  character, up to the first character that starts none (`CutAt`); this is what `tokensFrom` finds
  (`cutAt_iff`). The tokens stand one behind the other (`CutAt.ordered`), so those that end before
  one of them are those in front of it (`CutAt.endingBefore_split`). A character that the cutting
  stops at stands at the same place of the formula text, with its leading equals sign or without
  (`Unsigned.drop_eq`).
-/

namespace RecordCalc.Formula

/-- The place behind a token. -/
def Located.finish (t : Located) : Nat := t.position + t.token.chars.length

/-- The tokens among some that end before a place. -/
def endingBefore (position : Nat) (ts : List Located) : List Token :=
  (ts.filter fun t => t.finish ≤ position).map (·.token)

/-- No token stands at the front of a text. -/
def NoToken (cs : List Char) : Prop := ∀ t, Lexeme t → ¬ t.chars <+: cs

/-- A text whose first character has the given place is cut into tokens, each the longest possible
and with its place, up to a character that is no gap and starts no token, if there is one. -/
inductive CutAt : Nat → List Char → List Located → Option (Nat × Char) → Prop
  | nil (p : Nat) : CutAt p [] [] none
  | stop (p : Nat) {c : Char} {cs : List Char} : isGap c = false → NoToken (c :: cs) →
      CutAt p (c :: cs) [] (some (p, c))
  | gap {p : Nat} {c : Char} {cs : List Char} {ts : List Located} {stop : Option (Nat × Char)} :
      isGap c = true → CutAt (p + 1) cs ts stop → CutAt p (c :: cs) ts stop
  | token {p : Nat} {t : Token} {rest : List Char} {ts : List Located}
      {stop : Option (Nat × Char)} : Lexeme t → IsLongest t rest →
      CutAt (p + t.chars.length) rest ts stop → CutAt p (t.chars ++ rest) (⟨t, p⟩ :: ts) stop

/-! ## Cutting -/

section
variable {p : Nat} {c : Char} {cs : List Char} {ts : List Located} {stop : Option (Nat × Char)}

theorem Lexeme.length_pos {t : Token} (h : Lexeme t) : 0 < t.chars.length := by
  obtain ⟨c, letters, hchars, -⟩ := h.head
  rw [hchars, List.length_cons]
  omega

theorem not_isGap_of_not_isBlank (h : Text.isBlank c = false) : isGap c = false := by
  by_contra hgap
  have hblank := isBlank_of_isGap (Bool.not_eq_false _ ▸ hgap : isGap c = true)
  rw [h] at hblank
  cases hblank

/-- No token starts where none is scanned. -/
theorem noToken_of_scanToken (h : scanToken cs = none) : NoToken cs := by
  intro t ht hfront
  obtain ⟨rest, rfl⟩ := hfront
  obtain ⟨t', hscan, -⟩ := scanToken_reaches ht rest
  rw [h] at hscan
  cases hscan

theorem scanToken_of_noToken (h : NoToken cs) : scanToken cs = none := by
  by_contra hscan
  obtain ⟨t, ht⟩ := Option.ne_none_iff_exists'.1 hscan
  obtain ⟨hlexeme, rest, rfl⟩ := scanToken_sound ht
  exact h t hlexeme (List.prefix_append _ _)

theorem cutAt_tokensFrom (p skip : Nat) (cs : List Char) :
    CutAt (p + skip) (cs.drop skip) (tokensFrom p skip cs).located (tokensFrom p skip cs).stop := by
  fun_induction tokensFrom p skip cs with
  | case1 p skip =>
    rw [List.drop_nil]
    exact .nil _
  | case2 p skip c cs ih =>
    have hplace : p + (skip + 1) = p + 1 + skip := by omega
    rw [hplace, List.drop_succ_cons]
    exact ih
  | case3 p c cs hgap ih => exact .gap hgap ih
  | case4 p c cs hgap hscan =>
    exact .stop _ (Bool.not_eq_true _ ▸ hgap) (noToken_of_scanToken hscan)
  | case5 p c cs hgap t hscan rest ih =>
    obtain ⟨ht, after, hcs⟩ := scanToken_sound hscan
    have hpos := ht.length_pos
    have hplace : p + 1 + (t.chars.length - 1) = p + t.chars.length := by omega
    have hdrop : cs.drop (t.chars.length - 1) = after := by
      have hlength : t.chars.length = t.chars.length - 1 + 1 := by omega
      have hcut := congrArg (List.drop t.chars.length) hcs
      rw [List.drop_left, hlength, List.drop_succ_cons] at hcut
      exact hcut
    rw [hplace, hdrop] at ih
    rw [Nat.add_zero, List.drop_zero, hcs]
    rw [hcs] at hscan
    exact .token ht (isLongest_of_scanToken hscan) ih

theorem tokensFrom_of_cutAt (h : CutAt p cs ts stop) : tokensFrom p 0 cs = ⟨ts, stop⟩ := by
  induction h with
  | nil p => rfl
  | stop p hgap hnone =>
    rw [tokensFrom, if_neg (by simp [hgap]), scanToken_of_noToken hnone]
  | gap hgap _ ih => rw [tokensFrom, if_pos hgap, ih]
  | @token p t rest ts stop ht hlongest _ ih =>
    have hscan := scanToken_of_isLongest ht hlongest
    obtain ⟨c, letters, hchars, hblank⟩ := ht.head
    have hgap : ¬ isGap c = true := by simp [not_isGap_of_not_isBlank hblank]
    have hskip : tokensFrom (p + 1) (t.chars.length - 1) (letters ++ rest) = ⟨ts, stop⟩ := by
      have hplace : p + 1 + letters.length = p + t.chars.length := by
        rw [hchars, List.length_cons]
        omega
      rw [tokensFrom_skip, hchars, List.length_cons, Nat.add_sub_cancel, List.drop_left, hplace]
      exact ih
    rw [hchars, List.cons_append] at hscan
    rw [hchars, List.cons_append, tokensFrom, if_neg hgap, hscan]
    simp only [hskip]

/-- Cutting a text is what finds its tokens. -/
theorem cutAt_iff : CutAt p cs ts stop ↔ tokensFrom p 0 cs = ⟨ts, stop⟩ := by
  constructor
  · exact tokensFrom_of_cutAt
  · intro h
    have hcut := cutAt_tokensFrom p 0 cs
    rw [h] at hcut
    exact hcut

theorem cutAt_tokens (cs : List Char) : CutAt 0 cs (tokens cs).located (tokens cs).stop :=
  cutAt_iff.2 rfl

/-- There is one way to cut a text. -/
theorem CutAt.unique {ts' : List Located} {stop' : Option (Nat × Char)} (h : CutAt p cs ts stop)
    (h' : CutAt p cs ts' stop') : ts = ts' ∧ stop = stop' := by
  have htokens := cutAt_iff.1 h
  rw [cutAt_iff.1 h'] at htokens
  cases htokens
  exact ⟨rfl, rfl⟩

/-- The tokens of a formula text are those it is cut into. -/
theorem isCut_of_cutAt {formula : String} (h : CutAt 0 (blankEquals formula.toList) ts none) :
    IsCut formula (ts.map (·.token)) := by
  rw [isCut_iff, tokens, cutAt_iff.1 h]
  exact ⟨rfl, rfl⟩

/-! ## Order of the tokens -/

theorem CutAt.lexeme (h : CutAt p cs ts stop) : ∀ t ∈ ts, Lexeme t.token := by
  induction h with
  | nil | stop => exact List.forall_mem_nil _
  | gap _ _ ih => exact ih
  | token ht _ _ ih => exact List.forall_mem_cons.2 ⟨ht, ih⟩

/-- The tokens stand within the text. -/
theorem CutAt.within (h : CutAt p cs ts stop) :
    ∀ t ∈ ts, p ≤ t.position ∧ t.finish ≤ p + cs.length := by
  induction h with
  | nil | stop => exact List.forall_mem_nil _
  | gap _ _ ih =>
    intro t ht
    have := ih t ht
    rw [List.length_cons]
    omega
  | @token p t rest ts stop _ _ _ ih =>
    refine List.forall_mem_cons.2 ⟨?_, ?_⟩
    · rw [Located.finish, List.length_append]
      dsimp only
      omega
    · intro t' ht'
      have := ih t' ht'
      rw [List.length_append]
      omega

/-- The tokens stand one behind the other. -/
theorem CutAt.ordered (h : CutAt p cs ts stop) :
    ts.Pairwise fun t t' => t.finish ≤ t'.position := by
  induction h with
  | nil | stop => exact .nil
  | gap _ _ ih => exact ih
  | token _ _ hrest ih =>
    exact List.pairwise_cons.2 ⟨fun t' ht' => (hrest.within t' ht').1, ih⟩

/-- A token stands at its place. -/
theorem CutAt.token_at (h : CutAt p cs ts stop) {t : Located} (ht : t ∈ ts) :
    ∃ before rest, cs = before ++ (t.token.chars ++ rest) ∧ t.position = p + before.length := by
  induction h with
  | nil | stop => cases ht
  | @gap p c cs ts stop _ _ ih =>
    obtain ⟨before, rest, rfl, hplace⟩ := ih ht
    refine ⟨c :: before, rest, rfl, ?_⟩
    rw [hplace, List.length_cons]
    omega
  | @token p t' rest' ts stop _ _ _ ih =>
    rcases List.mem_cons.1 ht with rfl | ht
    · exact ⟨[], rest', rfl, rfl⟩
    · obtain ⟨before, rest, rfl, hplace⟩ := ih ht
      refine ⟨t'.chars ++ before, rest, (List.append_assoc _ _ _).symm, ?_⟩
      rw [hplace, List.length_append]
      omega

/-- The character that the cutting stops at stands behind all tokens and starts none. -/
theorem CutAt.stop_at {q : Nat} (h : CutAt p cs ts (some (q, c))) :
    (∃ before rest, cs = before ++ c :: rest ∧ q = p + before.length ∧ NoToken (c :: rest)) ∧
      isGap c = false ∧ ∀ t ∈ ts, t.finish ≤ q := by
  generalize hstop : some (q, c) = stop at h
  induction h with
  | nil => cases hstop
  | stop p hgap hnone =>
    cases hstop
    exact ⟨⟨[], _, rfl, rfl, hnone⟩, hgap, List.forall_mem_nil _⟩
  | @gap p c' cs ts stop _ _ ih =>
    obtain ⟨⟨before, rest, rfl, hplace, hnone⟩, hgap, hall⟩ := ih hstop
    refine ⟨⟨c' :: before, rest, rfl, ?_, hnone⟩, hgap, hall⟩
    rw [hplace, List.length_cons]
    omega
  | @token p t rest' ts stop _ _ _ ih =>
    obtain ⟨⟨before, rest, rfl, hplace, hnone⟩, hgap, hall⟩ := ih hstop
    refine ⟨⟨t.chars ++ before, rest, (List.append_assoc _ _ _).symm, ?_, hnone⟩, hgap, ?_⟩
    · rw [hplace, List.length_append]
      omega
    · refine List.forall_mem_cons.2 ⟨?_, hall⟩
      rw [Located.finish]
      dsimp only
      omega

theorem endingBefore_all {q : Nat} (h : ∀ t ∈ ts, t.finish ≤ q) :
    endingBefore q ts = ts.map (·.token) := by
  rw [endingBefore, List.filter_eq_self.2 fun t ht => decide_eq_true (h t ht)]

/-- The tokens that end before one of them are those in front of it. -/
theorem CutAt.endingBefore_split {before after : List Located} {t : Located}
    (h : CutAt p cs (before ++ t :: after) stop) :
    endingBefore t.position (before ++ t :: after) = before.map (·.token) := by
  obtain ⟨-, hrest, hbefore⟩ := List.pairwise_append.1 h.ordered
  obtain ⟨hafter, -⟩ := List.pairwise_cons.1 hrest
  have hpos : ∀ t' ∈ before ++ t :: after, t'.position < t'.finish := by
    intro t' ht'
    have := (h.lexeme t' ht').length_pos
    rw [Located.finish]
    omega
  have ht := hpos t (by simp)
  -- neither the token itself ends before its place nor any behind it
  have hnone : (t :: after).filter (fun t' => t'.finish ≤ t.position) = [] := by
    rw [List.filter_eq_nil_iff]
    intro t' ht'
    have hfinish : t.position < t'.finish := by
      rcases List.mem_cons.1 ht' with rfl | hmem
      · exact ht
      · have h1 := hafter t' hmem
        have h2 := hpos t' (List.mem_append_right _ ht')
        omega
    simpa using hfinish
  have hall : ∀ t' ∈ before, t'.finish ≤ t.position := fun t' ht' =>
    hbefore t' ht' t List.mem_cons_self
  rw [endingBefore, List.filter_append, hnone, List.append_nil]
  exact endingBefore_all hall

end

/-! ## Places in the formula text -/

section
variable {cs source before rest : List Char} {c : Char}

theorem Unsigned.length_eq (h : Unsigned cs source) : source.length = cs.length := by
  cases h with
  | sign => simp
  | plain => rfl

theorem length_blankEquals (formula : String) :
    (blankEquals formula.toList).length = formula.length := by
  rw [(unsigned_blankEquals formula.toList).length_eq, String.length_toList]

/-- A character that is no gap stands at the same place of the formula text and of what is cut, and
unless it is a blank, so does all that follows. -/
theorem Unsigned.drop_eq (h : Unsigned cs source) (hsource : source = before ++ c :: rest)
    (hgap : isGap c = false) :
    ∃ rest', cs.drop before.length = c :: rest' ∧ (Text.isBlank c = false → rest' = rest) := by
  cases h with
  | plain =>
    rw [hsource]
    exact ⟨rest, List.drop_left, fun _ => rfl⟩
  | @sign blanks rest' hblanks =>
    rcases List.append_eq_append_iff.1 hsource with ⟨behind, rfl, htail⟩ | ⟨within, rfl, htail⟩
    · -- the character stands behind the sign
      cases behind with
      | nil =>
        obtain ⟨rfl, -⟩ := List.cons.inj htail
        exact absurd hgap (by decide)
      | cons space behind =>
        obtain ⟨rfl, rfl⟩ := List.cons.inj htail
        refine ⟨rest, ?_, fun _ => rfl⟩
        have hlength : (blanks ++ ' ' :: behind).length = (blanks ++ '=' :: behind).length := by
          simp
        have hdrop : ((blanks ++ '=' :: behind) ++ c :: rest).drop (blanks ++ '=' :: behind).length =
            c :: rest := List.drop_left
        rw [List.append_assoc, ← hlength] at hdrop
        exact hdrop
    · -- the character is one of the blanks before the sign
      cases within with
      | nil =>
        obtain ⟨rfl, -⟩ := List.cons.inj htail
        exact absurd hgap (by decide)
      | cons blank within =>
        obtain ⟨rfl, -⟩ := List.cons.inj htail
        have hblank : Text.isBlank c = true := hblanks c (by simp)
        refine ⟨within ++ '=' :: rest', ?_, fun hc => ?_⟩
        · rw [List.append_assoc, List.drop_left]
          rfl
        · rw [hblank] at hc
          cases hc

end

end RecordCalc.Formula
