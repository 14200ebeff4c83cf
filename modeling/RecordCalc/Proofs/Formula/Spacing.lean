import Mathlib.Data.List.Chain
import RecordCalc.Proofs.Formula.Grammar
import RecordCalc.Proofs.Formula.Lexeme

/-
  Tokens side by side. In what the grammar derives no token goes on with the one behind it
  (`joined_of_derives`), so whatever gaps are left between the tokens, none at all included, the
  text is cut into just these tokens (`lexes_of_spaced`).
-/

namespace RecordCalc.Formula

/-- The first token does not go on with the second. -/
def Apart (t t' : Token) : Prop := ∀ c ∈ t'.chars.head?, t.goesOn c = false

/-- Tokens that may stand first in an expression. -/
def Token.opens : Token → Bool
  | numeral _ | text .. | field _ | name _ => true
  | symbol s => s == .opening || s == .minus || s == .plus || s == .bang

/-- Tokens that may stand last in an expression. -/
def Token.closes : Token → Bool
  | numeral _ | text .. | field _ | name _ => true
  | symbol s => s == .closing

/-- Tokens that are each apart from the next, the first and the last as in an expression. -/
structure Joined (ts : List Token) : Prop where
  apart : ts.IsChain Apart
  opens : ∃ t rest, ts = t :: rest ∧ t.opens = true
  closes : ∃ t before, ts = before ++ [t] ∧ t.closes = true

section
variable {t : Token} {ts us : List Token} {s : Symbol}

/-- No expression goes on with a symbol inside its last token. -/
theorem apart_symbol (ht : t.closes = true) (s : Symbol) : Apart t (.symbol s) := by
  intro c hc
  obtain ⟨c', cs, hchars, hplain⟩ :=
    s.head (p := fun c => !(Numeral.goesOn c || inName c)) (by decide)
  obtain rfl : c' = c := by
    rw [Token.chars, hchars] at hc
    exact Option.some.inj hc
  rw [Bool.not_eq_true', Bool.or_eq_false_iff] at hplain
  cases t with
  | numeral n => exact hplain.1
  | name letters => exact hplain.2
  | text | field => rfl
  | symbol s' =>
    obtain rfl : s' = .closing := by simpa [Token.closes] using ht
    rfl

theorem head_of_opens (ht : t.opens = true) (hlexeme : Lexeme t) {c : Char}
    (hc : c ∈ t.chars.head?) : c ≠ '=' ∧ c ≠ '>' := by
  cases hlexeme with
  | numeral hn =>
    obtain ⟨c', cs, hchars, hhead⟩ := hn.head
    rw [Token.chars, hchars] at hc
    cases hc
    refine ⟨?_, ?_⟩ <;> rintro rfl <;> revert hhead <;> decide
  | text hquote _ =>
    cases hc
    rcases hquote with rfl | rfl <;> decide
  | field _ =>
    cases hc
    decide
  | name hname _ =>
    cases hc
    refine ⟨?_, ?_⟩ <;> rintro rfl <;> revert hname <;> decide
  | symbol s =>
    have hs : (s == .opening || s == .minus || s == .plus || s == .bang) = true := ht
    simp only [Bool.or_eq_true, beq_iff_eq] at hs
    rcases hs with ((rfl | rfl) | rfl) | rfl <;> cases hc <;> decide

/-- No symbol goes on with the first token of an expression. -/
theorem symbol_apart (s : Symbol) (ht : t.opens = true) (hlexeme : Lexeme t) :
    Apart (.symbol s) t := by
  intro c hc
  obtain ⟨hequal, hgreater⟩ := head_of_opens ht hlexeme hc
  cases s <;> simp [Token.goesOn, hequal, hgreater]

/-! ## What the grammar derives -/

/-- A symbol may stand before an expression. -/
theorem Joined.behind (h : Joined us) (hlexeme : ∀ t ∈ us, Lexeme t) (s : Symbol) :
    (Token.symbol s :: us).IsChain Apart := by
  obtain ⟨t, rest, rfl, hopens⟩ := h.opens
  refine List.isChain_cons.2 ⟨fun t' ht' => ?_, h.apart⟩
  cases ht'
  exact symbol_apart s hopens (hlexeme t List.mem_cons_self)

/-- A symbol and what it stands before may stand behind an expression. -/
theorem Joined.before (h : Joined ts) (hchain : (Token.symbol s :: us).IsChain Apart) :
    (ts ++ .symbol s :: us).IsChain Apart := by
  obtain ⟨t, before, rfl, hcloses⟩ := h.closes
  refine List.isChain_append.2 ⟨h.apart, hchain, fun t' ht' t'' ht'' => ?_⟩
  rw [List.getLast?_concat] at ht'
  cases ht'
  cases ht''
  exact apart_symbol hcloses s

theorem Joined.operator (hts : Joined ts) (hus : Joined us) (hlexeme : ∀ t ∈ us, Lexeme t)
    (s : Symbol) : Joined (ts ++ .symbol s :: us) where
  apart := hts.before (hus.behind hlexeme s)
  opens := by
    obtain ⟨t, rest, rfl, hopens⟩ := hts.opens
    exact ⟨t, rest ++ .symbol s :: us, rfl, hopens⟩
  closes := by
    obtain ⟨t, before, rfl, hcloses⟩ := hus.closes
    exact ⟨t, ts ++ .symbol s :: before, by simp, hcloses⟩

theorem Joined.leading (h : Joined ts) (hlexeme : ∀ t ∈ ts, Lexeme t)
    (hs : (Token.symbol s).opens = true) : Joined (.symbol s :: ts) where
  apart := h.behind hlexeme s
  opens := ⟨.symbol s, ts, rfl, hs⟩
  closes := by
    obtain ⟨t, before, rfl, hcloses⟩ := h.closes
    exact ⟨t, .symbol s :: before, rfl, hcloses⟩

theorem joined_singleton (hopens : t.opens = true) (hcloses : t.closes = true) : Joined [t] :=
  ⟨.singleton t, ⟨t, [], rfl, hopens⟩, ⟨t, [], rfl, hcloses⟩⟩

/-- The inside of brackets with the brackets. -/
theorem Joined.bracketed (h : Joined ts) :
    List.IsChain Apart (.symbol .opening :: ts ++ [.symbol .closing]) := by
  have hchain : (ts ++ [Token.symbol .closing]).IsChain Apart := h.before (.singleton _)
  exact List.isChain_cons.2 ⟨fun _ _ _ _ => rfl, hchain⟩

theorem joined_separated {lists : List (List Token)} (h : ∀ ts ∈ lists, Joined ts)
    (hlexeme : ∀ t ∈ separated lists, Lexeme t) (hne : lists ≠ []) :
    Joined (separated lists) := by
  induction lists with
  | nil => exact absurd rfl hne
  | cons ts lists ih =>
    have hts := h ts List.mem_cons_self
    cases lists with
    | nil =>
      rw [separated_singleton]
      exact hts
    | cons us lists =>
      rw [separated_cons_cons] at hlexeme ⊢
      have hrest : ∀ t ∈ separated (us :: lists), Lexeme t := fun t ht =>
        hlexeme t (List.mem_append_right _ (List.mem_cons_of_mem _ ht))
      have hjoined := ih (fun ts hts => h ts (List.mem_cons_of_mem _ hts)) hrest
        (List.cons_ne_nil us lists)
      exact hts.operator hjoined hrest .comma

/-- What the grammar derives is joined. -/
theorem joined_of_derives {level : Level} {e : Expr} (h : Derives level ts e)
    (hlexeme : ∀ t ∈ ts, Lexeme t) : Joined ts := by
  induction h with
  | next _ _ ih => exact ih hlexeme
  | left _ _ _ _ iha ihb | power _ _ iha ihb =>
    have hright := fun t ht => hlexeme t (List.mem_append_right _ (List.mem_cons_of_mem _ ht))
    have hleft := iha fun t ht => hlexeme t (List.mem_append_left _ ht)
    exact hleft.operator (ihb hright) hright _
  | unary hop _ ih =>
    have hrest := fun t ht => hlexeme t (List.mem_cons_of_mem _ ht)
    have hall : ∀ o ∈ leadingOperators, (Token.symbol o.1).opens = true := by decide
    exact (ih hrest).leading hrest (hall _ hop)
  | numeral | text | field | yes | no => exact joined_singleton rfl rfl
  | @call letters args _ ih =>
    have hlist : ∀ t ∈ separated (args.map (·.1)), Lexeme t := fun t ht => hlexeme t
      (List.mem_append_left _ (List.mem_cons_of_mem _ (List.mem_cons_of_mem _ ht)))
    have hchain : List.IsChain Apart
        (.symbol .opening :: separated (args.map (·.1)) ++ [.symbol .closing]) := by
      by_cases hne : args.map (·.1) = []
      · rw [hne]
        exact List.isChain_cons.2 ⟨fun _ _ _ _ => rfl, .singleton _⟩
      · refine (joined_separated (fun ts hts => ?_) hlist hne).bracketed
        obtain ⟨arg, harg, rfl⟩ := List.mem_map.1 hts
        exact ih arg harg fun t ht => hlist t (mem_separated (List.mem_map_of_mem harg) ht)
    refine ⟨List.isChain_cons.2 ⟨fun t ht => ?_, hchain⟩, ⟨_, _, rfl, rfl⟩, ⟨_, _, rfl, rfl⟩⟩
    cases ht
    exact apart_symbol rfl .opening
  | @group ts e _ ih =>
    have hinside : ∀ t ∈ ts, Lexeme t := fun t ht =>
      hlexeme t (List.mem_append_left _ (List.mem_cons_of_mem _ ht))
    exact ⟨(ih hinside).bracketed, ⟨_, _, rfl, rfl⟩, ⟨_, _, rfl, rfl⟩⟩

/-! ## Gaps between tokens -/

/-- A text of some tokens with any gaps around them. -/
inductive Spaced : List Token → List Char → Prop
  | nil : Spaced [] []
  | gap {c : Char} {ts : List Token} {cs : List Char} : isGap c → Spaced ts cs →
      Spaced ts (c :: cs)
  | token (t : Token) {ts : List Token} {cs : List Char} : Spaced ts cs →
      Spaced (t :: ts) (t.chars ++ cs)

/-- A text of tokens starts with a gap or with the first token. -/
theorem Spaced.head {cs : List Char} (h : Spaced ts cs) (hlexeme : ∀ t ∈ ts, Lexeme t) {c : Char}
    (hc : c ∈ cs.head?) : isGap c = true ∨ ∃ t ∈ ts.head?, c ∈ t.chars.head? := by
  cases h with
  | nil => cases hc
  | gap hgap _ =>
    cases hc
    exact Or.inl hgap
  | token t _ =>
    obtain ⟨c', letters, hchars, -⟩ := (hlexeme t List.mem_cons_self).head
    rw [hchars] at hc
    cases hc
    exact Or.inr ⟨t, rfl, by rw [hchars]; rfl⟩

theorem not_goesOn_gap (t : Token) {c : Char} (h : isGap c = true) : t.goesOn c = false := by
  have hplain := of_isGap
    (p := fun c => !(Numeral.goesOn c || inName c || c == '=' || c == '>')) (by decide) h
  rw [Bool.not_eq_true', Bool.or_eq_false_iff, Bool.or_eq_false_iff, Bool.or_eq_false_iff] at hplain
  obtain ⟨⟨⟨hnumeral, hname⟩, hequal⟩, hgreater⟩ := hplain
  cases t with
  | numeral n => exact hnumeral
  | name letters => exact hname
  | text | field => rfl
  | symbol s => cases s <;> simp [Token.goesOn, hequal, hgreater]

/-- Joined tokens with any gaps around them are cut apart again. -/
theorem lexes_of_spaced {cs : List Char} (h : Spaced ts cs) (hlexeme : ∀ t ∈ ts, Lexeme t)
    (hapart : ts.IsChain Apart) : Lexes cs ts := by
  induction h with
  | nil => exact .nil
  | gap hgap _ ih => exact .gap hgap (ih hlexeme hapart)
  | token t hspaced ih =>
    obtain ⟨hhead, hrest⟩ := List.isChain_cons.1 hapart
    have hlexemes := fun t ht => hlexeme t (List.mem_cons_of_mem _ ht)
    have ht := hlexeme t List.mem_cons_self
    refine .token ht (isLongest_of_scanToken (scanToken_chars ht fun c hc => ?_))
      (ih hlexemes hrest)
    rcases hspaced.head hlexemes hc with hgap | ⟨t', ht', hc'⟩
    · exact not_goesOn_gap t hgap
    · exact hhead t' ht' c hc'

end

end RecordCalc.Formula
