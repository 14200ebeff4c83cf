import RecordCalc.Formula.Token
import RecordCalc.Proofs.Number.Numeral

/-
  The tokens of formulas as the grammar has them, and the texts that they make up. A text is cut
  into tokens, each the longest that its front allows, with gaps between them (`Lexes`). This is
  what `tokens` finds (`tokens_iff`), so there is one way at most to cut a text.
-/

namespace RecordCalc.Formula

open Text (isDigit)

/-! ## Tokens -/

/-- What stands between two quotes: a quote only behind a backslash, and a backslash only with the
character after it. -/
inductive IsBody (quote : Char) : List Char → Prop
  | nil : IsBody quote []
  | plain {c : Char} {body : List Char} : c ≠ quote → c ≠ '\\' → IsBody quote body →
      IsBody quote (c :: body)
  | escaped (c : Char) {body : List Char} : IsBody quote body → IsBody quote ('\\' :: c :: body)

/-- The tokens of the grammar. -/
inductive Lexeme : Token → Prop
  | numeral {n : Numeral} : n.IsWritten → Lexeme (.numeral n)
  | text {quote : Char} {body : List Char} : quote = '"' ∨ quote = '\'' → IsBody quote body →
      Lexeme (.text quote body)
  | field {body : List Char} : (∀ c ∈ body, c ≠ '{' ∧ c ≠ '}') → Lexeme (.field body)
  | name {c : Char} {letters : List Char} : startsName c → (∀ c ∈ letters, inName c) →
      Lexeme (.name (c :: letters))
  | symbol (s : Symbol) : Lexeme (.symbol s)

/-- The token is the longest at the front of a text that goes on with `rest`. -/
def IsLongest (t : Token) (rest : List Char) : Prop :=
  ∀ t' rest', Lexeme t' → t'.chars ++ rest' = t.chars ++ rest → t'.chars.length ≤ t.chars.length

/-- A text is cut into tokens, each the longest possible, with gaps between them. -/
inductive Lexes : List Char → List Token → Prop
  | nil : Lexes [] []
  | gap {c : Char} {cs : List Char} {ts : List Token} : isGap c → Lexes cs ts → Lexes (c :: cs) ts
  | token {t : Token} {rest : List Char} {ts : List Token} : Lexeme t → IsLongest t rest →
      Lexes rest ts → Lexes (t.chars ++ rest) (t :: ts)

/-- Whether a longer token could go on with a character. -/
def Token.goesOn : Token → Char → Bool
  | numeral _, c => Numeral.goesOn c
  | name _, c => inName c
  | symbol .less, c => c == '=' || c == '>'
  | symbol .greater, c | symbol .bang, c => c == '='
  | text .., _ | field _, _ | symbol _, _ => false

/-! ## First characters -/

/-- The first characters of symbols. -/
def symbolHeads : List Char :=
  ['+', '-', '*', '/', '%', '^', '&', '=', '<', '>', '!', '(', ')', ',']

section
variable {c : Char}

theorem inName_of_startsName (h : startsName c = true) : inName c = true := by
  simp only [startsName, inName, Char.isAlphanum, Bool.or_eq_true] at h ⊢
  rcases h with h | h
  · exact Or.inl (Or.inl h)
  · exact Or.inr h

theorem toNat_of_startsName (h : startsName c = true) : 65 ≤ c.toNat ∧ c.toNat ≤ 122 := by
  unfold startsName Char.isAlpha Char.isUpper Char.isLower at h
  simp only [Bool.or_eq_true, decide_eq_true_eq, Bool.and_eq_true, beq_iff_eq, ge_iff_le,
    UInt32.le_iff_toNat_le] at h
  rcases h with (⟨hl, hr⟩ | ⟨hl, hr⟩) | rfl
  · have hA : 'A'.val.toNat = 65 := rfl
    have hZ : 'Z'.val.toNat = 90 := rfl
    rw [Char.toNat]
    omega
  · have ha : 'a'.val.toNat = 97 := rfl
    have hz : 'z'.val.toNat = 122 := rfl
    rw [Char.toNat]
    omega
  · decide

theorem not_isDigit_of_startsName (h : startsName c = true) : isDigit c = false := by
  obtain ⟨hl, hr⟩ := toNat_of_startsName h
  have hzeros : ∀ z ∈ Text.digitZeros, z = 48 ∨ 1632 ≤ z := by decide
  have hnone : (Text.digitZeros.find? fun z => z ≤ c.toNat && c.toNat ≤ z + 9) = none := by
    rw [List.find?_eq_none]
    intro z hz
    have := hzeros z hz
    simp only [Bool.and_eq_true, decide_eq_true_eq, not_and]
    omega
  rw [isDigit, Text.digitValue?, hnone]
  rfl

theorem startsOther_of_numeral (h : isDigit c = true ∨ c = '.') :
    (c == '"' || c == '\'') = false ∧ (c == '{') = false ∧ startsName c = false := by
  rcases h with h | rfl
  · have hname : startsName c = false := by
      by_contra hname
      rw [not_isDigit_of_startsName (by simpa using hname)] at h
      cases h
    have hnot : ∀ c', isDigit c' = false → (c == c') = false := by
      intro c' hc'
      rw [beq_eq_false_iff_ne]
      rintro rfl
      rw [hc'] at h
      cases h
    have hdouble := hnot '"' (by decide)
    have hsingle := hnot '\'' (by decide)
    exact ⟨by rw [hdouble, hsingle]; rfl, hnot '{' (by decide), hname⟩
  · decide

end

/-! ## Scanning -/

section
variable {quote : Char} {body cs rest : List Char}

theorem scanBody_append (h : IsBody quote body) (hquote : quote ≠ '\\') (rest : List Char) :
    scanBody quote (body ++ quote :: rest) = some body := by
  induction h with
  | nil => cases rest <;> simp [scanBody, hquote]
  | @plain c body hc hbackslash _ ih =>
    rw [List.cons_append, scanBody, if_neg (by simpa using hc),
      if_neg (by simpa using hbackslash), ih]
    · rfl
    · rintro _ _ rfl
      exact absurd rfl hbackslash
  | escaped c _ ih =>
    rw [List.cons_append, List.cons_append, scanBody, ih]
    rfl

theorem scanBody_sound (h : scanBody quote cs = some body) :
    IsBody quote body ∧ ∃ rest, cs = body ++ quote :: rest := by
  fun_induction scanBody quote cs generalizing body with
  | case1 => cases h
  | case2 c cs ih =>
    obtain ⟨body, hbody, rfl⟩ := Option.map_eq_some_iff.1 h
    obtain ⟨hb, rest, rfl⟩ := ih hbody
    exact ⟨.escaped c hb, rest, rfl⟩
  | case3 c rest _ hquote =>
    cases h
    exact ⟨.nil, rest, by rw [beq_iff_eq.1 hquote]; rfl⟩
  | case4 => cases h
  | case5 c cs _ hquote hbackslash ih =>
    obtain ⟨body, hbody, rfl⟩ := Option.map_eq_some_iff.1 h
    obtain ⟨hb, rest, rfl⟩ := ih hbody
    exact ⟨.plain (by simpa using hquote) (by simpa using hbackslash) hb, rest, rfl⟩

theorem scanField_append (h : ∀ c ∈ body, c ≠ '{' ∧ c ≠ '}') (rest : List Char) :
    scanField (body ++ '}' :: rest) = some body := by
  induction body with
  | nil => rfl
  | cons c body ih =>
    obtain ⟨hopen, hclose⟩ := h c List.mem_cons_self
    rw [List.cons_append, scanField, if_neg (by simpa using hclose), if_neg (by simpa using hopen),
      ih fun c hc => h c (List.mem_cons_of_mem _ hc)]
    rfl

theorem scanField_sound (h : scanField cs = some body) :
    (∀ c ∈ body, c ≠ '{' ∧ c ≠ '}') ∧ ∃ rest, cs = body ++ '}' :: rest := by
  fun_induction scanField cs generalizing body with
  | case1 => cases h
  | case2 c rest hclose =>
    cases h
    exact ⟨by simp, rest, by rw [beq_iff_eq.1 hclose]; rfl⟩
  | case3 => cases h
  | case4 c cs hclose hopen ih =>
    obtain ⟨body, hbody, rfl⟩ := Option.map_eq_some_iff.1 h
    obtain ⟨hb, rest, rfl⟩ := ih hbody
    refine ⟨fun c' hc' => ?_, rest, rfl⟩
    rcases List.mem_cons.1 hc' with rfl | hc'
    · exact ⟨by simpa using hopen, by simpa using hclose⟩
    · exact hb c' hc'

theorem scanSymbol_chars {s : Symbol}
    (hrest : ∀ c ∈ rest.head?, (Token.symbol s).goesOn c = false) :
    scanSymbol (s.chars ++ rest) = some s := by
  cases rest with
  | nil =>
    cases s with
    | notEqual angled => cases angled <;> rfl
    | _ => rfl
  | cons c rest =>
    have hc := hrest c rfl
    cases s with
    | notEqual angled => cases angled <;> rfl
    | less =>
      simp only [Token.goesOn, Bool.or_eq_false_iff, beq_eq_false_iff_ne] at hc
      simp [Symbol.chars, scanSymbol, hc.1, hc.2]
    | greater | bang =>
      simp only [Token.goesOn, beq_eq_false_iff_ne] at hc
      simp [Symbol.chars, scanSymbol, hc]
    | _ => rfl

theorem scanSymbol_reaches (s : Symbol) (rest : List Char) :
    ∃ s', scanSymbol (s.chars ++ rest) = some s' ∧ s.chars.length ≤ s'.chars.length := by
  by_cases hrest : ∀ c ∈ rest.head?, (Token.symbol s).goesOn c = false
  · exact ⟨s, scanSymbol_chars hrest, Nat.le_refl _⟩
  · cases rest with
    | nil => simp at hrest
    | cons c rest =>
      have hc : (Token.symbol s).goesOn c = true := by simpa using hrest
      cases s with
      | less =>
        simp only [Token.goesOn, Bool.or_eq_true, beq_iff_eq] at hc
        rcases hc with rfl | rfl <;> exact ⟨_, rfl, by decide⟩
      | greater | bang =>
        simp only [Token.goesOn, beq_iff_eq] at hc
        subst hc
        exact ⟨_, rfl, by decide⟩
      | _ => cases hc

theorem scanSymbol_sound {s : Symbol} (h : scanSymbol cs = some s) :
    ∃ rest, cs = s.chars ++ rest := by
  unfold scanSymbol at h
  split at h <;> cases h <;> exact ⟨_, rfl⟩

/-! ## The token at the front -/

variable {t : Token} {ts : List Token}

theorem scanToken_text (h : quote = '"' ∨ quote = '\'') (cs : List Char) :
    scanToken (quote :: cs) = (scanBody quote cs).map (.text quote) := by
  rcases h with rfl | rfl <;> rfl

theorem scanToken_field (cs : List Char) : scanToken ('{' :: cs) = (scanField cs).map .field := rfl

theorem scanToken_name {c : Char} (h : startsName c = true) (cs : List Char) :
    scanToken (c :: cs) = some (.name ((c :: cs).takeWhile inName)) := by
  have hquote : ¬ (c == '"' || c == '\'') = true := by
    intro hc
    simp only [Bool.or_eq_true, beq_iff_eq] at hc
    rcases hc with rfl | rfl <;> cases h
  have hbrace : ¬ (c == '{') = true := by
    rintro hc
    rw [beq_iff_eq.1 hc] at h
    cases h
  rw [scanToken, if_neg hquote, if_neg hbrace, if_pos h]

theorem scanToken_letters {c : Char} {letters : List Char} (hc : startsName c = true)
    (hletters : ∀ c ∈ letters, inName c) (rest : List Char) :
    scanToken (c :: letters ++ rest) =
      some (.name (c :: letters ++ rest.takeWhile inName)) := by
  have hall : ∀ c' ∈ c :: letters, inName c' = true := by
    intro c' hc'
    rcases List.mem_cons.1 hc' with rfl | hc'
    · exact inName_of_startsName hc
    · exact hletters c' hc'
  rw [List.cons_append, scanToken_name hc, ← List.cons_append, List.takeWhile_append_of_pos hall]

theorem scanToken_other {c : Char} (hquote : (c == '"' || c == '\'') = false)
    (hbrace : (c == '{') = false) (hname : startsName c = false) (cs : List Char) :
    scanToken (c :: cs) =
      match Numeral.scan? (c :: cs) with
      | some (n, _) => some (.numeral n)
      | none => (scanSymbol (c :: cs)).map .symbol := by
  refine (if_neg (ne_true_of_eq_false hquote)).trans ?_
  refine (if_neg (ne_true_of_eq_false hbrace)).trans ?_
  exact if_neg (ne_true_of_eq_false hname)

theorem scanToken_numeral {n : Numeral} (h : n.IsWritten) {n' : Numeral} {r : List Char}
    (hscan : Numeral.scan? (n.toChars ++ rest) = some (n', r)) :
    scanToken (n.toChars ++ rest) = some (.numeral n') := by
  obtain ⟨c, cs, hc, hhead⟩ := h.head
  obtain ⟨hquote, hbrace, hname⟩ := startsOther_of_numeral hhead
  rw [hc, List.cons_append] at hscan ⊢
  rw [scanToken_other hquote hbrace hname, hscan]

/-- A symbol has a first character, of which holds what holds of all first characters. -/
theorem Symbol.head {p : Char → Bool} (hall : symbolHeads.all p = true) (s : Symbol) :
    ∃ c cs, s.chars = c :: cs ∧ p c = true := by
  have hmem : ∃ c cs, s.chars = c :: cs ∧ c ∈ symbolHeads := by
    cases s with
    | notEqual angled => cases angled <;> exact ⟨_, _, rfl, by decide⟩
    | _ => exact ⟨_, _, rfl, by decide⟩
  obtain ⟨c, cs, hchars, hc⟩ := hmem
  exact ⟨c, cs, hchars, List.all_eq_true.1 hall c hc⟩

theorem scanToken_symbol (s : Symbol) (rest : List Char) :
    scanToken (s.chars ++ rest) = (scanSymbol (s.chars ++ rest)).map .symbol := by
  obtain ⟨c, cs, hchars, hplain⟩ := s.head (p := fun c => !((c == '"' || c == '\'') ||
    c == '{' || startsName c || isDigit c || c == '.')) (by decide)
  rw [Bool.not_eq_true', Bool.or_eq_false_iff, Bool.or_eq_false_iff, Bool.or_eq_false_iff,
    Bool.or_eq_false_iff] at hplain
  obtain ⟨⟨⟨⟨hquote, hbrace⟩, hname⟩, hdigit⟩, hpoint⟩ := hplain
  rw [hchars, List.cons_append, scanToken_other hquote hbrace hname,
    Numeral.scan?_eq_none hdigit (beq_eq_false_iff_ne.1 hpoint)]

/-- What is scanned is a token at the front of the text. -/
theorem scanToken_sound (h : scanToken cs = some t) :
    Lexeme t ∧ ∃ rest, cs = t.chars ++ rest := by
  unfold scanToken at h
  split at h
  · cases h
  · next c cs =>
    split at h
    · next hquote =>
      obtain ⟨body, hbody, rfl⟩ := Option.map_eq_some_iff.1 h
      obtain ⟨hb, rest, rfl⟩ := scanBody_sound hbody
      exact ⟨.text (by simpa using hquote) hb, rest, by simp [Token.chars]⟩
    · split at h
      · next hbrace =>
        obtain ⟨body, hbody, rfl⟩ := Option.map_eq_some_iff.1 h
        obtain ⟨hb, rest, rfl⟩ := scanField_sound hbody
        exact ⟨.field hb, rest, by simp [Token.chars, beq_iff_eq.1 hbrace]⟩
      · split at h
        · next hname =>
          have htake := List.takeWhile_cons_of_pos (l := cs) (inName_of_startsName hname)
          rw [htake] at h
          cases h
          refine ⟨.name hname fun _ hc => List.mem_takeWhile_imp hc, cs.dropWhile inName, ?_⟩
          rw [Token.chars, List.cons_append, List.takeWhile_append_dropWhile]
        · split at h
          · next n r hscan =>
            cases h
            obtain ⟨hn, hcs⟩ := Numeral.isWritten_of_scan? hscan
            exact ⟨.numeral hn, r, hcs⟩
          · obtain ⟨s, hsymbol, rfl⟩ := Option.map_eq_some_iff.1 h
            exact ⟨.symbol s, scanSymbol_sound hsymbol⟩

/-- A token is scanned as it is where the text does not go on with it. -/
theorem scanToken_chars (h : Lexeme t) (hrest : ∀ c ∈ rest.head?, t.goesOn c = false) :
    scanToken (t.chars ++ rest) = some t := by
  cases h with
  | numeral hn => exact scanToken_numeral hn (Numeral.scan?_toChars hn hrest)
  | @text quote body hquote hbody =>
    have hbackslash : quote ≠ '\\' := by rcases hquote with rfl | rfl <;> decide
    have hchars : (Token.text quote body).chars ++ rest = quote :: (body ++ quote :: rest) := by
      simp [Token.chars]
    rw [hchars, scanToken_text hquote, scanBody_append hbody hbackslash]
    rfl
  | @field body hbody =>
    have hchars : (Token.field body).chars ++ rest = '{' :: (body ++ '}' :: rest) := by
      simp [Token.chars]
    rw [hchars, scanToken_field, scanField_append hbody]
    rfl
  | @name c letters hc hletters =>
    have htake : rest.takeWhile inName = [] := by
      cases rest with
      | nil => rfl
      | cons c' rest =>
        have hc' : inName c' = false := hrest c' rfl
        exact List.takeWhile_cons_of_neg (by simp [hc'])
    rw [Token.chars, scanToken_letters hc hletters, htake, List.append_nil]
  | symbol s =>
    rw [Token.chars, scanToken_symbol, scanSymbol_chars hrest]
    rfl

/-- No token at the front of a text is longer than the one that is scanned. -/
theorem scanToken_reaches (h : Lexeme t) (rest : List Char) :
    ∃ t', scanToken (t.chars ++ rest) = some t' ∧ t.chars.length ≤ t'.chars.length := by
  cases h with
  | @numeral n hn =>
    obtain ⟨n', r, hscan, hr⟩ := Numeral.scan?_reaches hn rest
    refine ⟨_, scanToken_numeral hn hscan, ?_⟩
    have hlength := congrArg List.length (Numeral.isWritten_of_scan? hscan).2
    have hle := hr.length_le
    simp only [List.length_append] at hlength
    simp only [Token.chars]
    omega
  | @name c letters hc hletters =>
    refine ⟨_, scanToken_letters hc hletters rest, ?_⟩
    rw [Token.chars, Token.chars, List.length_append]
    exact Nat.le_add_right _ _
  | symbol s =>
    obtain ⟨s', hscan, hle⟩ := scanSymbol_reaches s rest
    exact ⟨.symbol s', by rw [Token.chars, scanToken_symbol, hscan]; rfl, hle⟩
  | text hquote hbody =>
    exact ⟨_, scanToken_chars (.text hquote hbody) fun _ _ => rfl, Nat.le_refl _⟩
  | field hbody => exact ⟨_, scanToken_chars (.field hbody) fun _ _ => rfl, Nat.le_refl _⟩

theorem Lexeme.scan (h : Lexeme t) : scanToken t.chars = some t := by
  have hscan : scanToken (t.chars ++ []) = some t := scanToken_chars h fun _ hc => nomatch hc
  rwa [List.append_nil] at hscan

theorem Lexeme.ext {t' : Token} (h : Lexeme t) (h' : Lexeme t') (heq : t.chars = t'.chars) :
    t = t' := by
  have hscan := h.scan
  rw [heq, h'.scan] at hscan
  exact (Option.some.inj hscan).symm

/-- What is scanned is the longest token at the front. -/
theorem isLongest_of_scanToken (h : scanToken (t.chars ++ rest) = some t) : IsLongest t rest := by
  intro t' rest' ht' heq
  obtain ⟨t'', hscan, hle⟩ := scanToken_reaches ht' rest'
  rw [heq, h] at hscan
  cases hscan
  exact hle

/-- The longest token at the front is scanned. -/
theorem scanToken_of_isLongest (h : Lexeme t) (hlongest : IsLongest t rest) :
    scanToken (t.chars ++ rest) = some t := by
  -- what is scanned is as long as `t`, and so made up of the same characters
  obtain ⟨t', hscan, hle⟩ := scanToken_reaches h rest
  obtain ⟨ht', rest', heq⟩ := scanToken_sound hscan
  have hlength : t.chars.length = t'.chars.length :=
    Nat.le_antisymm hle (hlongest t' rest' ht' heq.symm)
  rw [hscan, Lexeme.ext h ht' (List.append_inj_left heq hlength)]

end

/-! ## Cutting a text into tokens -/

/-- What holds of the five gaps holds of each. -/
theorem of_isGap {p : Char → Bool} (hall : [' ', '\t', '\x0c', '\r', '\n'].all p = true)
    {c : Char} (h : isGap c = true) : p c = true := by
  have hgap : c ∈ [' ', '\t', '\x0c', '\r', '\n'] := by
    simpa [isGap, or_assoc] using h
  exact List.all_eq_true.1 hall c hgap

theorem isBlank_of_isGap {c : Char} (h : isGap c = true) : Text.isBlank c = true :=
  of_isGap (by decide) h

theorem not_isBlank_of_startsName {c : Char} (h : startsName c = true) :
    Text.isBlank c = false := by
  obtain ⟨hl, hr⟩ := toNat_of_startsName h
  simp only [Text.isBlank, Bool.or_eq_false_iff, Bool.and_eq_false_imp, decide_eq_true_eq,
    decide_eq_false_iff_not, beq_eq_false_iff_ne]
  omega

theorem not_isBlank_of_isDigit {c : Char} (h : isDigit c = true) : Text.isBlank c = false := by
  have hall : ∀ z ∈ Text.digitZeros, ∀ k < 10, Text.isBlank (Char.ofNat (z + k)) = false := by
    decide +kernel
  rw [isDigit, Text.digitValue?, Option.isSome_map, List.find?_isSome] at h
  obtain ⟨z, hz, hle⟩ := h
  simp only [Bool.and_eq_true, decide_eq_true_eq] at hle
  have hc := hall z hz (c.toNat - z) (by omega)
  rwa [Nat.add_sub_cancel' hle.1, Char.ofNat_toNat] at hc

/-- A token has a first character, which is no blank. -/
theorem Lexeme.head {t : Token} (h : Lexeme t) :
    ∃ c cs, t.chars = c :: cs ∧ Text.isBlank c = false := by
  cases h with
  | numeral hn =>
    obtain ⟨c, cs, hc, hhead⟩ := hn.head
    refine ⟨c, cs, hc, ?_⟩
    rcases hhead with hhead | rfl
    · exact not_isBlank_of_isDigit hhead
    · decide
  | text hquote _ =>
    refine ⟨_, _, rfl, ?_⟩
    rcases hquote with rfl | rfl <;> decide
  | field _ => exact ⟨'{', _, rfl, by decide⟩
  | name hc _ => exact ⟨_, _, rfl, not_isBlank_of_startsName hc⟩
  | symbol s =>
    obtain ⟨c, cs, hchars, hc⟩ := s.head (p := fun c => !Text.isBlank c) (by decide)
    exact ⟨c, cs, hchars, by simpa using hc⟩

theorem tokensFrom_skip (position skip : Nat) (cs : List Char) :
    tokensFrom position skip cs = tokensFrom (position + skip) 0 (cs.drop skip) := by
  induction skip generalizing position cs with
  | zero => rfl
  | succ skip ih =>
    cases cs with
    | nil => simp [tokensFrom]
    | cons c cs =>
      rw [tokensFrom, ih, List.drop_succ_cons]
      congr 1
      omega

theorem lexes_of_tokensFrom (position skip : Nat) (cs : List Char)
    (h : (tokensFrom position skip cs).stop = none) :
    Lexes (cs.drop skip) ((tokensFrom position skip cs).located.map (·.token)) := by
  fun_induction tokensFrom position skip cs with
  | case1 position skip =>
    rw [List.drop_nil]
    exact .nil
  | case2 position c cs skip ih => exact ih h
  | case3 position c cs hgap ih => exact .gap hgap (ih h)
  | case4 position c cs hgap hscan => cases h
  | case5 position c cs hgap t hscan rest ih =>
    obtain ⟨ht, after, hcs⟩ := scanToken_sound hscan
    obtain ⟨c', letters, hchars, -⟩ := ht.head
    have hdrop : cs.drop (t.chars.length - 1) = after := by
      rw [hchars] at hcs ⊢
      obtain ⟨rfl, rfl⟩ := List.cons.inj hcs
      simp
    have hlexes := ih h
    rw [hdrop] at hlexes
    rw [List.drop_zero, hcs]
    rw [hcs] at hscan
    exact .token ht (isLongest_of_scanToken hscan) hlexes

theorem tokensFrom_of_lexes {cs : List Char} {ts : List Token} (h : Lexes cs ts) (position : Nat) :
    (tokensFrom position 0 cs).stop = none ∧
      (tokensFrom position 0 cs).located.map (·.token) = ts := by
  induction h generalizing position with
  | nil => exact ⟨rfl, rfl⟩
  | gap hc _ ih =>
    rw [tokensFrom, if_pos hc]
    exact ih (position + 1)
  | @token t rest ts ht hlongest _ ih =>
    have hscan := scanToken_of_isLongest ht hlongest
    obtain ⟨c, letters, hchars, hblank⟩ := ht.head
    have hgap : ¬ isGap c = true := by
      intro hgap
      rw [isBlank_of_isGap hgap] at hblank
      cases hblank
    obtain ⟨hstop, htokens⟩ := ih (position + 1 + letters.length)
    rw [hchars, List.cons_append] at hscan
    rw [hchars, List.cons_append, tokensFrom, if_neg hgap, hscan]
    have hskip : tokensFrom (position + 1) (t.chars.length - 1) (letters ++ rest) =
        tokensFrom (position + 1 + letters.length) 0 rest := by
      rw [tokensFrom_skip, hchars]
      simp
    simp only [hskip]
    exact ⟨hstop, by rw [List.map_cons, htokens]⟩

/-- The tokens of a text are the only way to cut it. -/
theorem tokens_iff {cs : List Char} {ts : List Token} :
    (tokens cs).stop = none ∧ (tokens cs).located.map (·.token) = ts ↔ Lexes cs ts := by
  constructor
  · rintro ⟨hstop, rfl⟩
    exact lexes_of_tokensFrom 0 0 cs hstop
  · intro h
    exact tokensFrom_of_lexes h 0

/-- A text of blanks has no tokens. -/
theorem Lexes.eq_nil_of_blank {cs : List Char} {ts : List Token} (h : Lexes cs ts)
    (hblank : ∀ c ∈ cs, Text.isBlank c = true) : ts = [] := by
  induction h with
  | nil => rfl
  | gap _ _ ih => exact ih fun c hc => hblank c (List.mem_cons_of_mem _ hc)
  | @token t rest ts ht =>
    obtain ⟨c, letters, hchars, hc⟩ := ht.head
    rw [hblank c (by simp [hchars])] at hc
    cases hc

end RecordCalc.Formula
