import Mathlib
import RecordCalc.Proofs.Formula.Meaning
import RecordCalc.Proofs.Formula.Spacing
import RecordCalc.Proofs.Text.Digits

/-
  Printed forms of expressions: brackets where an operand binds looser than its place allows, and
  any others, names in any letter case, texts in either quotes, and any gaps between the tokens.
  Reading a printed form gives back the expression (`parse_printed`).
-/

namespace RecordCalc

/-! ## Expressions that can be printed -/

/-- A name in capital letters, digits and underscores that starts with no digit. -/
structure IsCallName (name : List Char) : Prop where
  nonempty : name ≠ []
  first : ∀ c ∈ name.head?, c.isUpper || c == '_'
  letters : ∀ c ∈ name, c.isUpper || c.isDigit || c == '_'

/-- A name without braces, and without blanks at its ends. -/
structure IsFieldName (name : List Char) : Prop where
  braces : ∀ c ∈ name, c ≠ '{' ∧ c ≠ '}'
  first : ∀ c ∈ name.head?, Text.isBlank c = false
  last : ∀ c ∈ name.getLast?, Text.isBlank c = false

/-- Expressions that can be printed: literals that are integers without a sign, truth values or
texts, and the operators of the grammar. -/
inductive Expr.IsPlain : Expr → Prop
  | int {n : Nat} : (Nat.toDigits 10 n).length ≤ Fault.digitLimit → IsPlain (.literal (.int n))
  | bool (b : Bool) : IsPlain (.literal (.bool b))
  | text (s : String) : IsPlain (.literal (.text s))
  | field {name : String} : IsFieldName name.toList → IsPlain (.field name)
  | call {name : String} {args : List Expr} : IsCallName name.toList → (∀ e ∈ args, IsPlain e) →
      IsPlain (.call name args)
  | unary {op : UnaryOp} {e : Expr} : op ∈ [.negate, .plus, .not] → IsPlain e →
      IsPlain (.unary op e)
  | binary {op : BinaryOp} {l r : Expr} : op ∈ BinaryOp.all → IsPlain l → IsPlain r →
      IsPlain (.binary op l r)

/-! ## Printing -/

namespace BinaryOp

/-- How tight an operator binds. -/
def tightness : BinaryOp → Nat
  | power => 3
  | multiply | divide | modulo => 2
  | add | subtract | concat => 1
  | _ => 0

/-- How tight a left operand has to bind; only powers group to the right. -/
def leftTightness (op : BinaryOp) : Nat :=
  if op = power then op.tightness + 1 else op.tightness

/-- How tight a right operand has to bind. -/
def rightTightness (op : BinaryOp) : Nat :=
  if op = power then op.tightness else op.tightness + 1

/-- The ways to write an operator. -/
def spellings (op : BinaryOp) : List (List Char) :=
  if op = notEqual then ["!=".toList, "<>".toList] else [op.symbol.toList]

end BinaryOp

/-- How tight operators before an operand bind. -/
def UnaryOp.tightness : Nat := 4

namespace Formula

/-- The level of operands that bind as tight as given. -/
def Level.ofTightness : Nat → Level
  | 0 => comparison
  | 1 => sum
  | 2 => product
  | 3 => power
  | 4 => unary
  | _ => primary

/-- A text with a backslash before each backslash and each quote. -/
def escape (quote : Char) : List Char → List Char
  | [] => []
  | c :: cs => if c = quote ∨ c = '\\' then '\\' :: c :: escape quote cs else c :: escape quote cs

/-- The printed forms of an expression where an operand has to bind as tight as given. -/
inductive Printed : Nat → Expr → List Token → Prop
  | int (tight n : Nat) :
      Printed tight (.literal (.int n)) [.numeral ⟨Nat.toDigits 10 n, none, none⟩]
  | bool (tight : Nat) (b : Bool) {letters : List Char} :
      letters.map Char.toUpper = (if b then "TRUE" else "FALSE").toList →
      Printed tight (.literal (.bool b)) [.name letters]
  | text (tight : Nat) (s : String) {quote : Char} : quote = '"' ∨ quote = '\'' →
      Printed tight (.literal (.text s)) [.text quote (escape quote s.toList)]
  | field (tight : Nat) (name : String) : Printed tight (.field name) [.field name.toList]
  | call (tight : Nat) {name : String} {letters : List Char} {args : List (Expr × List Token)} :
      letters.map Char.toUpper = name.toList → (∀ arg ∈ args, Printed 0 arg.1 arg.2) →
      Printed tight (.call name (args.map (·.1)))
        (.name letters :: .symbol .opening :: separated (args.map (·.2)) ++ [.symbol .closing])
  | unary {tight : Nat} {op : UnaryOp} {s : Symbol} {e : Expr} {ts : List Token} :
      tight ≤ UnaryOp.tightness → s.chars = op.symbol.toList → Printed UnaryOp.tightness e ts →
      Printed tight (.unary op e) (.symbol s :: ts)
  | binary {tight : Nat} {op : BinaryOp} {s : Symbol} {l r : Expr} {ts us : List Token} :
      tight ≤ op.tightness → s.chars ∈ op.spellings → Printed op.leftTightness l ts →
      Printed op.rightTightness r us → Printed tight (.binary op l r) (ts ++ .symbol s :: us)
  | group (tight : Nat) {e : Expr} {ts : List Token} : Printed 0 e ts →
      Printed tight e (.symbol .opening :: ts ++ [.symbol .closing])

/-! ## Literals and names -/

theorem isBody_escape (quote : Char) (cs : List Char) : IsBody quote (escape quote cs) := by
  induction cs with
  | nil => exact .nil
  | cons c cs ih =>
    rw [escape]
    split
    · exact .escaped c ih
    · next h =>
      obtain ⟨hc, hbackslash⟩ := not_or.1 h
      exact .plain hc hbackslash ih

theorem unescape_escape {quote : Char} (hquote : quote = '"' ∨ quote = '\'') (cs : List Char) :
    unescape (escape quote cs) = cs := by
  induction cs with
  | nil => rfl
  | cons c cs ih =>
    rw [escape]
    split
    · next h =>
      have hc : (c == 'n') = false ∧ (c == 't') = false ∧ (c == 'r') = false := by
        rcases h with rfl | rfl
        · rcases hquote with rfl | rfl <;> decide
        · decide
      obtain ⟨hn, ht, hr⟩ := hc
      rw [unescape, hn, ht, hr, ih]
      rfl
    · next h =>
      have hbackslash : c ≠ '\\' := fun hc => h (Or.inr hc)
      rw [unescape, ih]
      rintro _ _ rfl
      exact absurd rfl hbackslash

theorem trimChars_of_isFieldName {name : List Char} (h : IsFieldName name) :
    Text.trimChars name = name := by
  have hdrop : ∀ {cs : List Char}, (∀ c ∈ cs.head?, Text.isBlank c = false) →
      cs.dropWhile Text.isBlank = cs := by
    intro cs hcs
    cases cs with
    | nil => rfl
    | cons c cs => exact List.dropWhile_cons_of_neg (by simp [hcs c rfl])
  rw [Text.trimChars, Text.trimStart, hdrop h.first, Text.trimEnd, hdrop, List.reverse_reverse]
  rw [List.head?_reverse]
  exact h.last

theorem startsName_of_isLower {c : Char} (h : c.isLower = true) : startsName c = true := by
  rw [startsName, Char.isAlpha, h, Bool.or_true, Bool.true_or]

theorem startsName_of_toUpper {c : Char} (h : startsName c.toUpper = true) :
    startsName c = true := by
  by_cases hlower : c.isLower = true
  · exact startsName_of_isLower hlower
  · rwa [Char.toUpper_eq_of_not_isLower hlower] at h

theorem inName_of_toUpper {c : Char} (h : inName c.toUpper = true) : inName c = true := by
  by_cases hlower : c.isLower = true
  · exact inName_of_startsName (startsName_of_isLower hlower)
  · rwa [Char.toUpper_eq_of_not_isLower hlower] at h

/-- Letters whose capitals are a name of calls are a name. -/
theorem lexeme_of_capitals {letters name : List Char} (h : letters.map Char.toUpper = name)
    (hname : IsCallName name) : Lexeme (.name letters) := by
  subst h
  have hin : ∀ c ∈ letters, inName c = true := by
    intro c hc
    have hcapital := hname.letters _ (List.mem_map_of_mem hc)
    refine inName_of_toUpper ?_
    simp only [Bool.or_eq_true] at hcapital
    simp only [inName, Char.isAlphanum, Char.isAlpha, Bool.or_eq_true]
    tauto
  cases letters with
  | nil => exact absurd rfl hname.nonempty
  | cons c letters =>
    have hfirst := hname.first c.toUpper rfl
    refine .name (startsName_of_toUpper ?_) fun c' hc' => hin c' (List.mem_cons_of_mem _ hc')
    simp only [Bool.or_eq_true] at hfirst
    simp only [startsName, Char.isAlpha, Bool.or_eq_true]
    tauto

/-! ## Tokens of printed forms -/

theorem derives_of_succ {tight : Nat} {ts : List Token} {e : Expr}
    (h : Derives (Level.ofTightness (tight + 1)) ts e) :
    Derives (Level.ofTightness tight) ts e := by
  match tight with
  | 0 | 1 | 2 | 3 | 4 => exact .next rfl h
  | _ + 5 => exact h

/-- What the grammar derives at a level, it derives at every looser level. -/
theorem derives_of_le {tight tight' : Nat} (h : tight ≤ tight') {ts : List Token} {e : Expr}
    (hderives : Derives (Level.ofTightness tight') ts e) :
    Derives (Level.ofTightness tight) ts e := by
  induction h with
  | refl => exact hderives
  | step _ ih => exact ih (derives_of_succ hderives)

theorem derives_of_primary (tight : Nat) {ts : List Token} {e : Expr}
    (h : Derives .primary ts e) : Derives (Level.ofTightness tight) ts e := by
  have hprimary : Level.ofTightness (tight + 5) = .primary := rfl
  exact derives_of_le (Nat.le_add_right tight 5) (hprimary ▸ h)

theorem scanSymbol_of_chars {s : Symbol} {cs : List Char} (h : s.chars = cs) :
    scanSymbol cs = some s := by
  have hscan : scanSymbol (s.chars ++ []) = some s := scanSymbol_chars fun _ hc => nomatch hc
  rwa [List.append_nil, h] at hscan

/-- The symbols of an operator are those that its level has for it. -/
theorem mem_operators_of_spelling {op : BinaryOp} (hop : op ∈ BinaryOp.all) {s : Symbol}
    (hs : s.chars ∈ op.spellings) :
    op = .power ∧ s = .caret ∨
      op ≠ .power ∧ (s, op) ∈ (Level.ofTightness op.tightness).operators := by
  have hall : ∀ op ∈ BinaryOp.all, ∀ cs ∈ op.spellings, (scanSymbol cs).all fun s =>
      op = .power ∧ s = .caret ∨
        op ≠ .power ∧ (s, op) ∈ (Level.ofTightness op.tightness).operators := by decide
  have h := hall op hop s.chars hs
  rw [scanSymbol_of_chars rfl] at h
  exact of_decide_eq_true h

theorem mem_leadingOperators_of_spelling {op : UnaryOp} (hop : op ∈ [.negate, .plus, .not])
    {s : Symbol} (hs : s.chars = op.symbol.toList) : (s, op) ∈ leadingOperators := by
  have hall : ∀ op ∈ [UnaryOp.negate, .plus, .not], (scanSymbol op.symbol.toList).all fun s =>
      (s, op) ∈ leadingOperators := by decide
  have h := hall op hop
  rw [scanSymbol_of_chars hs] at h
  exact of_decide_eq_true h

/-- A token that the grammar has, a readable one if it is a numeral. -/
structure Token.IsGood (t : Token) : Prop where
  lexeme : Lexeme t
  readable : ∀ n, t = .numeral n → n.IsReadable

theorem isGood_symbol (s : Symbol) : Token.IsGood (.symbol s) := ⟨.symbol s, fun _ h => nomatch h⟩

theorem isGood_separated {lists : List (List Token)} (h : ∀ ts ∈ lists, ∀ t ∈ ts, t.IsGood) :
    ∀ t ∈ separated lists, t.IsGood := by
  induction lists with
  | nil => exact fun t ht => nomatch ht
  | cons ts lists ih =>
    have hts := h ts List.mem_cons_self
    cases lists with
    | nil =>
      rw [separated_singleton]
      exact hts
    | cons us lists =>
      rw [separated_cons_cons, List.forall_mem_append, List.forall_mem_cons]
      exact ⟨hts, isGood_symbol .comma, ih fun ts hts => h ts (List.mem_cons_of_mem _ hts)⟩

/-- The tokens of a printed form are those of the grammar, its numerals are readable. -/
theorem isGood_of_printed {tight : Nat} {e : Expr} {ts : List Token} (h : Printed tight e ts)
    (hplain : e.IsPlain) : ∀ t ∈ ts, t.IsGood := by
  induction h with
  | int tight n =>
    cases hplain with
    | int hlength =>
      have hwritten : Numeral.IsWritten ⟨Nat.toDigits 10 n, none, none⟩ :=
        ⟨⟨fun _ => Text.isDigit_of_mem_toDigits, by simp, by simp⟩, by simp⟩
      refine List.forall_mem_singleton.2 ⟨.numeral hwritten, ?_⟩
      rintro _ ⟨⟩ -
      exact hlength
  | @bool tight b letters hletters =>
    have hname : IsCallName (if b then "TRUE" else "FALSE").toList := by
      cases b with
      | false => exact ⟨by simp, by simp, List.all_eq_true.1 (by decide)⟩
      | true => exact ⟨by simp, by simp, List.all_eq_true.1 (by decide)⟩
    exact List.forall_mem_singleton.2 ⟨lexeme_of_capitals hletters hname, fun _ h => nomatch h⟩
  | text tight s hquote =>
    exact List.forall_mem_singleton.2 ⟨.text hquote (isBody_escape _ _), fun _ h => nomatch h⟩
  | field tight name =>
    cases hplain with
    | field hname =>
      exact List.forall_mem_singleton.2 ⟨.field hname.braces, fun _ h => nomatch h⟩
  | @call tight name letters args hletters _ ih =>
    cases hplain with
    | call hname hargs =>
      have hlist : ∀ t ∈ separated (args.map (·.2)), t.IsGood := by
        refine isGood_separated fun ts hts => ?_
        obtain ⟨arg, harg, rfl⟩ := List.mem_map.1 hts
        exact ih arg harg (hargs arg.1 (List.mem_map_of_mem harg))
      have hgood : Token.IsGood (.name letters) :=
        ⟨lexeme_of_capitals hletters hname, fun _ h => nomatch h⟩
      rw [List.forall_mem_append, List.forall_mem_cons, List.forall_mem_cons,
        List.forall_mem_singleton]
      exact ⟨⟨hgood, isGood_symbol _, hlist⟩, isGood_symbol _⟩
  | unary _ _ _ ih =>
    cases hplain with
    | unary _ he => exact List.forall_mem_cons.2 ⟨isGood_symbol _, ih he⟩
  | binary _ _ _ _ ihl ihr =>
    cases hplain with
    | binary _ hl hr =>
      rw [List.forall_mem_append, List.forall_mem_cons]
      exact ⟨ihl hl, isGood_symbol _, ihr hr⟩
  | group tight _ ih =>
    rw [List.forall_mem_append, List.forall_mem_cons, List.forall_mem_singleton]
    exact ⟨⟨isGood_symbol _, ih hplain⟩, isGood_symbol _⟩

/-! ## Reading printed forms -/

/-- The grammar derives an operation from its operands, each as tight as it has to be. -/
theorem derives_binary {op : BinaryOp} (hop : op ∈ BinaryOp.all) {s : Symbol}
    (hs : s.chars ∈ op.spellings) {ts us : List Token} {l r : Expr}
    (hl : Derives (Level.ofTightness op.leftTightness) ts l)
    (hr : Derives (Level.ofTightness op.rightTightness) us r) :
    Derives (Level.ofTightness op.tightness) (ts ++ .symbol s :: us) (.binary op l r) := by
  rcases mem_operators_of_spelling hop hs with ⟨rfl, rfl⟩ | ⟨hpower, hmem⟩
  · exact .power hl hr
  · rw [BinaryOp.leftTightness, if_neg hpower] at hl
    rw [BinaryOp.rightTightness, if_neg hpower] at hr
    have hnext : (Level.ofTightness op.tightness).next? =
        some (Level.ofTightness (op.tightness + 1)) := by
      cases op <;> rfl
    exact .left hnext hmem hl hr

/-- The grammar derives an expression from its printed forms. -/
theorem derives_of_printed {tight : Nat} {e : Expr} {ts : List Token} (h : Printed tight e ts)
    (hplain : e.IsPlain) : Derives (Level.ofTightness tight) ts e := by
  induction h with
  | int tight n =>
    have hvalue : Numeral.denoted ⟨Nat.toDigits 10 n, none, none⟩ = .int n := by
      have hwhole : Numeral.isWhole ⟨Nat.toDigits 10 n, none, none⟩ = true := rfl
      rw [Numeral.denoted, if_pos hwhole, Text.digitsValue_toDigits]
    have hderives := Derives.numeral ⟨Nat.toDigits 10 n, none, none⟩
    rw [hvalue] at hderives
    exact derives_of_primary tight hderives
  | bool tight b hletters =>
    cases b with
    | false => exact derives_of_primary tight (.no hletters)
    | true => exact derives_of_primary tight (.yes hletters)
  | @text tight s quote hquote =>
    have hderives := Derives.text quote (escape quote s.toList)
    rw [unescape_escape hquote, String.ofList_toList] at hderives
    exact derives_of_primary tight hderives
  | field tight name =>
    cases hplain with
    | field hname =>
      have hderives := Derives.field name.toList
      rw [trimChars_of_isFieldName hname, String.ofList_toList] at hderives
      exact derives_of_primary tight hderives
  | @call tight name letters args hletters _ ih =>
    cases hplain with
    | call hname hargs =>
      have hderives := @Derives.call letters (args.map Prod.swap) (by
        intro swapped hswapped
        obtain ⟨arg, harg, rfl⟩ := List.mem_map.1 hswapped
        exact ih arg harg (hargs arg.1 (List.mem_map_of_mem harg)))
      rw [hletters, String.ofList_toList, List.map_map, List.map_map] at hderives
      exact derives_of_primary tight hderives
  | unary hle hs _ ih =>
    cases hplain with
    | unary hop he =>
      exact derives_of_le hle (.unary (mem_leadingOperators_of_spelling hop hs) (ih he))
  | binary hle hs _ _ ihl ihr =>
    cases hplain with
    | binary hop hl hr => exact derives_of_le hle (derives_binary hop hs (ihl hl) (ihr hr))
  | group tight _ ih => exact derives_of_primary tight (.group (ih hplain))

/-! ## Printed forms exist -/

theorem not_isLower_of_capital {c : Char} (h : (c.isUpper || c.isDigit || c == '_') = true) :
    ¬ c.isLower = true := by
  simp only [Bool.or_eq_true, beq_iff_eq] at h
  rcases h with (h | h) | rfl
  · exact Char.not_isLower_of_isUpper h
  · have h9 : '9'.val.toNat = 57 := rfl
    have ha : 'a'.val.toNat = 97 := rfl
    simp only [Char.isDigit, Char.isLower, Bool.and_eq_true, decide_eq_true_eq,
      UInt32.le_iff_toNat_le] at h ⊢
    omega
  · decide

theorem map_toUpper_of_isCallName {name : List Char} (h : IsCallName name) :
    name.map Char.toUpper = name := by
  have hsame : ∀ c ∈ name, c.toUpper = c := fun c hc =>
    Char.toUpper_eq_of_not_isLower (not_isLower_of_capital (h.letters c hc))
  rw [List.map_congr_left hsame]
  exact List.map_id name

theorem exists_printed_list {es : List Expr} (h : ∀ e ∈ es, ∃ ts, Printed 0 e ts) :
    ∃ args : List (Expr × List Token), args.map (·.1) = es ∧
      ∀ arg ∈ args, Printed 0 arg.1 arg.2 := by
  induction es with
  | nil => exact ⟨[], rfl, fun _ h => nomatch h⟩
  | cons e es ih =>
    obtain ⟨ts, hts⟩ := h e List.mem_cons_self
    obtain ⟨args, rfl, hargs⟩ := ih fun e he => h e (List.mem_cons_of_mem _ he)
    exact ⟨(e, ts) :: args, rfl, List.forall_mem_cons.2 ⟨hts, hargs⟩⟩

/-- Every expression that can be printed has a printed form. -/
theorem exists_printed {e : Expr} (h : e.IsPlain) (tight : Nat) : ∃ ts, Printed tight e ts := by
  induction h generalizing tight with
  | int => exact ⟨_, .int tight _⟩
  | bool b =>
    cases b with
    | false => exact ⟨_, @Printed.bool tight false "FALSE".toList (by decide)⟩
    | true => exact ⟨_, @Printed.bool tight true "TRUE".toList (by decide)⟩
  | text s => exact ⟨_, .text tight s (Or.inl rfl)⟩
  | field => exact ⟨_, .field tight _⟩
  | call hname _ ih =>
    obtain ⟨args, rfl, hargs⟩ := exists_printed_list fun e he => ih e he 0
    exact ⟨_, .call tight (map_toUpper_of_isCallName hname) hargs⟩
  | @unary op e hop _ ih =>
    obtain ⟨ts, hts⟩ := ih UnaryOp.tightness
    have hall : ∀ op ∈ [UnaryOp.negate, .plus, .not],
        (scanSymbol op.symbol.toList).map Symbol.chars = some op.symbol.toList := by decide
    obtain ⟨s, -, hs⟩ := Option.map_eq_some_iff.1 (hall op hop)
    exact ⟨_, .group tight (.unary (Nat.zero_le _) hs hts)⟩
  | @binary op l r hop _ _ ihl ihr =>
    obtain ⟨ts, hts⟩ := ihl op.leftTightness
    obtain ⟨us, hus⟩ := ihr op.rightTightness
    have hall : ∀ op ∈ BinaryOp.all,
        (scanSymbol op.symbol.toList).map Symbol.chars = some op.symbol.toList ∧
          op.symbol.toList ∈ op.spellings := by decide
    obtain ⟨hscan, hmem⟩ := hall op hop
    obtain ⟨s, -, hchars⟩ := Option.map_eq_some_iff.1 hscan
    have hs : s.chars ∈ op.spellings := hchars ▸ hmem
    exact ⟨_, .group tight (.binary (Nat.zero_le _) hs hts hus)⟩

/-! ## Printed forms as formula texts -/

theorem exists_spaced (ts : List Token) : ∃ cs, Spaced ts cs := by
  induction ts with
  | nil => exact ⟨[], .nil⟩
  | cons t ts ih =>
    obtain ⟨cs, hcs⟩ := ih
    exact ⟨_, .token t hcs⟩

/-- The text of some tokens starts with gaps and the first token. -/
theorem Spaced.split {t : Token} {ts : List Token} {cs : List Char} (h : Spaced (t :: ts) cs) :
    ∃ gaps rest, (∀ c ∈ gaps, isGap c = true) ∧ cs = gaps ++ (t.chars ++ rest) := by
  generalize htokens : t :: ts = tokens at h
  induction h with
  | nil => cases htokens
  | @gap c ts cs hgap _ ih =>
    obtain ⟨gaps, rest, hgaps, rfl⟩ := ih htokens
    exact ⟨c :: gaps, rest, List.forall_mem_cons.2 ⟨hgap, hgaps⟩, rfl⟩
  | token t _ =>
    cases htokens
    exact ⟨[], _, fun _ hc => (nomatch hc), rfl⟩

/-- The text of an expression is a formula, with an equals sign before it or without. -/
theorem isCut_of_spaced {ts : List Token} {cs : List Char} (hspaced : Spaced ts cs)
    (hjoined : Joined ts) (hlexeme : ∀ t ∈ ts, Lexeme t) :
    IsCut (String.ofList cs) ts ∧ IsCut (String.ofList ('=' :: cs)) ts := by
  have hlexes := lexes_of_spaced hspaced hlexeme hjoined.apart
  refine ⟨⟨cs, ?_, hlexes⟩, ⟨' ' :: cs, ?_, .gap rfl hlexes⟩⟩
  · obtain ⟨t, rest, rfl, hopens⟩ := hjoined.opens
    obtain ⟨gaps, rest, hgaps, rfl⟩ := hspaced.split
    have ht := hlexeme t List.mem_cons_self
    obtain ⟨c, letters, hchars, hblank⟩ := ht.head
    rw [String.toList_ofList]
    refine .plain (fun c hc => isBlank_of_isGap (hgaps c hc)) ?_
    rw [hchars]
    rintro _ ⟨⟩
    exact ⟨hblank, (head_of_opens hopens ht (by rw [hchars]; rfl)).1⟩
  · rw [String.toList_ofList]
    exact @Unsigned.sign [] cs fun _ h => nomatch h

/-- Reading undoes printing. An expression that can be printed has a printed form, and each of its
printed forms, whatever gaps are between the tokens and be there an equals sign before it or not,
reads as the expression. -/
theorem parse_printed {e : Expr} (hplain : e.IsPlain) :
    (∃ ts cs, Printed 0 e ts ∧ Spaced ts cs) ∧
      ∀ ts cs, Printed 0 e ts → Spaced ts cs →
        parse (String.ofList cs) = .ok e ∧ parse (String.ofList ('=' :: cs)) = .ok e := by
  refine ⟨?_, fun ts cs hprinted hspaced => ?_⟩
  · obtain ⟨ts, hts⟩ := exists_printed hplain 0
    obtain ⟨cs, hcs⟩ := exists_spaced ts
    exact ⟨ts, cs, hts, hcs⟩
  · have hgood := isGood_of_printed hprinted hplain
    have hlexeme : ∀ t ∈ ts, Lexeme t := fun t ht => (hgood t ht).lexeme
    have hread : Reading.Readable ts := fun n hn => (hgood _ hn).readable n rfl
    have hderives : Derives .comparison ts e := derives_of_printed hprinted hplain
    obtain ⟨hplainCut, hsigned⟩ :=
      isCut_of_spaced hspaced (joined_of_derives hderives hlexeme) hlexeme
    exact ⟨parse_of_means hplainCut hderives hread, parse_of_means hsigned hderives hread⟩

/-- Operators side by side stay apart: `1<>-{a}` in brackets that it needs. -/
theorem parse_printed_brackets :
    let e : Expr := .binary .concat
      (.binary .notEqual (.literal (.int 1)) (.unary .negate (.field "a"))) (.literal (.bool true))
    e.IsPlain ∧ parse "(1<>-{a} )&tRue" = .ok e ∧ parse "=(1<>-{a} )&tRue" = .ok e := by
  intro e
  have hfield : IsFieldName "a".toList :=
    ⟨List.forall_mem_singleton.2 (by decide), by rintro _ ⟨⟩; decide, by rintro _ ⟨⟩; decide⟩
  have hplain : e.IsPlain := .binary (by decide)
    (.binary (by decide) (.int (by decide)) (.unary (by decide) (.field hfield))) (.bool true)
  have hnegated : Printed 1 (.unary .negate (.field "a")) [.symbol .minus, .field ['a']] :=
    @Printed.unary 1 .negate .minus _ _ (by decide) (by decide) (.field _ "a")
  have hcompared : Printed 0 (.binary .notEqual (.literal (.int 1)) (.unary .negate (.field "a")))
      [.numeral ⟨['1'], none, none⟩, .symbol (.notEqual true), .symbol .minus, .field ['a']] :=
    @Printed.binary 0 .notEqual (.notEqual true) _ _ [_] _ (by decide) (by decide) (.int _ 1)
      hnegated
  have htrue : Printed 2 (.literal (.bool true)) [.name ['t', 'R', 'u', 'e']] :=
    .bool 2 true (by decide)
  have hprinted : Printed 0 e [.symbol .opening, .numeral ⟨['1'], none, none⟩,
      .symbol (.notEqual true), .symbol .minus, .field ['a'], .symbol .closing,
      .symbol .ampersand, .name ['t', 'R', 'u', 'e']] :=
    @Printed.binary 0 .concat .ampersand _ _ _ _ (by decide) (by decide) (.group _ hcompared) htrue
  have hspaced := Spaced.token (.symbol .opening) <| .token (.numeral ⟨['1'], none, none⟩) <|
    .token (.symbol (.notEqual true)) <| .token (.symbol .minus) <| .token (.field ['a']) <|
    .gap (rfl : isGap ' ' = true) <| .token (.symbol .closing) <| .token (.symbol .ampersand) <|
    .token (.name ['t', 'R', 'u', 'e']) .nil
  obtain ⟨hplainText, hsigned⟩ := (parse_printed hplain).2 _ _ hprinted hspaced
  exact ⟨hplain, hplainText, hsigned⟩

end Formula

end RecordCalc
