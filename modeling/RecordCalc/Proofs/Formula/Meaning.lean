import RecordCalc.Proofs.Formula.Accepting
import RecordCalc.Proofs.Formula.Deriving
import RecordCalc.Proofs.Formula.Lexeme

/-
  The meaning of a formula text: the expression that the grammar derives from its tokens, the
  leading equals sign left out. Reading a formula finds it, and no text means two expressions
  (`parse_iff_means`).
-/

namespace RecordCalc.Formula

/-- A text without its leading equals sign: the first character that is no blank is replaced by a
space if it is an equals sign. -/
inductive Unsigned : List Char → List Char → Prop
  | sign {blanks rest : List Char} : (∀ c ∈ blanks, Text.isBlank c) →
      Unsigned (blanks ++ '=' :: rest) (blanks ++ ' ' :: rest)
  | plain {blanks rest : List Char} : (∀ c ∈ blanks, Text.isBlank c) →
      (∀ c ∈ rest.head?, Text.isBlank c = false ∧ c ≠ '=') →
      Unsigned (blanks ++ rest) (blanks ++ rest)

/-- The tokens of a formula text. -/
def IsCut (formula : String) (tokens : List Token) : Prop :=
  ∃ source, Unsigned formula.toList source ∧ Lexes source tokens

/-- What a formula text means. -/
def Means (formula : String) (e : Expr) : Prop :=
  ∃ tokens, IsCut formula tokens ∧ Derives .comparison tokens e

theorem trimStart_blanks {blanks rest : List Char} (hblanks : ∀ c ∈ blanks, Text.isBlank c = true)
    (hrest : ∀ c ∈ rest.head?, Text.isBlank c = false) :
    Text.trimStart (blanks ++ rest) = rest ∧ (blanks ++ rest).takeWhile Text.isBlank = blanks := by
  rw [Text.trimStart, List.dropWhile_append_of_pos hblanks, List.takeWhile_append_of_pos hblanks]
  cases rest with
  | nil => simp
  | cons c rest =>
    have hc : ¬ Text.isBlank c = true := by simp [hrest c rfl]
    rw [List.dropWhile_cons_of_neg hc, List.takeWhile_cons_of_neg hc, List.append_nil]
    exact ⟨rfl, rfl⟩

theorem blankEquals_of_unsigned {cs source : List Char} (h : Unsigned cs source) :
    blankEquals cs = source := by
  cases h with
  | @sign blanks rest hblanks =>
    have hhead : ∀ c ∈ ('=' :: rest).head?, Text.isBlank c = false := by
      rintro c ⟨⟩
      decide
    obtain ⟨htrim, htake⟩ := trimStart_blanks hblanks hhead
    unfold blankEquals
    rw [htrim, htake]
    rfl
  | plain hblanks hrest =>
    obtain ⟨htrim, htake⟩ := trimStart_blanks hblanks fun c hc => (hrest c hc).1
    unfold blankEquals
    rw [htrim]
    split
    · exact absurd rfl (hrest '=' rfl).2
    · rfl

theorem unsigned_blankEquals (cs : List Char) : Unsigned cs (blankEquals cs) := by
  have hblanks : ∀ c ∈ cs.takeWhile Text.isBlank, Text.isBlank c = true :=
    fun c hc => List.mem_takeWhile_imp hc
  have hsplit : cs.takeWhile Text.isBlank ++ Text.trimStart cs = cs :=
    List.takeWhile_append_dropWhile
  unfold blankEquals
  split
  · next rest htrim =>
    have h : Unsigned _ (_ ++ ' ' :: rest) := .sign hblanks
    rw [← htrim, hsplit] at h
    exact h
  · next hsign =>
    have hhead : ∀ c ∈ (Text.trimStart cs).head?, Text.isBlank c = false ∧ c ≠ '=' := by
      intro c hc
      have hnot := List.head?_dropWhile_not Text.isBlank cs
      obtain ⟨rest, hrest⟩ := List.head?_eq_some_iff.1 hc
      rw [← Text.trimStart, hrest] at hnot
      refine ⟨hnot, ?_⟩
      rintro rfl
      exact hsign rest hrest
    have h := Unsigned.plain hblanks hhead
    rwa [hsplit] at h

theorem unsigned_iff {cs source : List Char} : Unsigned cs source ↔ source = blankEquals cs := by
  constructor
  · exact fun h => (blankEquals_of_unsigned h).symm
  · rintro rfl
    exact unsigned_blankEquals cs

/-- There is one way at most to cut a formula into tokens. -/
theorem isCut_iff {formula : String} {tokens' : List Token} :
    IsCut formula tokens' ↔ (tokens (blankEquals formula.toList)).stop = none ∧
      (tokens (blankEquals formula.toList)).located.map (·.token) = tokens' := by
  rw [tokens_iff]
  constructor
  · rintro ⟨source, hsource, hlexes⟩
    rw [unsigned_iff] at hsource
    exact hsource ▸ hlexes
  · intro h
    exact ⟨_, unsigned_iff.2 rfl, h⟩

theorem ne_nil_of_derives {level : Level} {ts : List Token} {e : Expr} (h : Derives level ts e) :
    ts ≠ [] := by
  induction h with
  | next _ _ ih => exact ih
  | _ => simp

/-- What is read is what the text means. -/
theorem means_of_parse {formula : String} {e : Expr} (h : parse formula = .ok e) :
    Means formula e := by
  unfold parse at h
  dsimp only at h
  split at h
  · cases h
  · obtain ⟨hstop, hderives⟩ := Reading.standsFor_start.run h
    exact ⟨_, isCut_iff.2 ⟨hstop, rfl⟩, hderives⟩

/-- Reading a formula that can be cut into tokens is reading the tokens. -/
theorem parse_eq_run {formula : String} {ts : List Token} (hcut : IsCut formula ts)
    (hne : ts ≠ []) : ∃ (length : Nat) (located : List Located),
      located.map (·.token) = ts ∧ parse formula = Reading.start.run length none located := by
  obtain ⟨hstop, rfl⟩ := isCut_iff.1 hcut
  have hblank : ¬ (blankEquals formula.toList).all Text.isBlank = true := by
    intro hall
    have hlexes := tokens_iff.1 ⟨hstop, rfl⟩
    exact hne (hlexes.eq_nil_of_blank fun c hc => List.all_eq_true.1 hall c hc)
  refine ⟨(blankEquals formula.toList).length, _, rfl, ?_⟩
  unfold parse
  dsimp only
  rw [if_neg hblank, hstop]

/-- What the text means is read, as long as its numerals are readable. -/
theorem parse_of_means {formula : String} {ts : List Token} {e : Expr} (hcut : IsCut formula ts)
    (hderives : Derives .comparison ts e) (hread : Reading.Readable ts) :
    parse formula = .ok e := by
  obtain ⟨length, located, rfl, hrun⟩ := parse_eq_run hcut (ne_nil_of_derives hderives)
  rw [hrun]
  exact Reading.run_of_derives hderives hread length

/-- Of a formula whose integers have no more digits than are read, reading finds the meaning, and
fails if there is none. No formula means two expressions. -/
theorem parse_iff_means {formula : String}
    (hread : ∀ ts, IsCut formula ts → Reading.Readable ts) :
    (∀ e, parse formula = .ok e ↔ Means formula e) ∧
      ∀ e e', Means formula e → Means formula e' → e = e' := by
  have hiff : ∀ e, parse formula = .ok e ↔ Means formula e := by
    intro e
    constructor
    · exact means_of_parse
    · rintro ⟨ts, hcut, hderives⟩
      exact parse_of_means hcut hderives (hread ts hcut)
  refine ⟨hiff, fun e e' he he' => ?_⟩
  have hparse := (hiff e).2 he
  rw [(hiff e').2 he'] at hparse
  exact (Except.ok.inj hparse).symm

/-- A sign binds tighter than a power, powers group to the right, and both bind tighter than a
comparison. -/
theorem parse_iff_means_signed :
    (∀ ts, IsCut "=-2^3^2 <> iF(True)" ts → Reading.Readable ts) ∧
      ∀ e, Means "=-2^3^2 <> iF(True)" e ↔
        e = .binary .notEqual
          (.binary .power (.unary .negate (.literal (.int 2)))
            (.binary .power (.literal (.int 3)) (.literal (.int 2))))
          (.call "IF" [.literal (.bool true)]) := by
  have hread : ∀ ts, IsCut "=-2^3^2 <> iF(True)" ts → Reading.Readable ts := by
    intro ts hcut n hn _
    obtain ⟨-, rfl⟩ := isCut_iff.1 hcut
    have hshort : ∀ t ∈ (tokens (blankEquals "=-2^3^2 <> iF(True)".toList)).located.map (·.token),
        t.chars.length ≤ 4 := by decide
    have hn := hshort _ hn
    rw [Token.chars, Numeral.toChars_eq, List.length_append, List.length_append] at hn
    have hlimit : 4 ≤ Fault.digitLimit := by decide
    omega
  obtain ⟨hiff, hunique⟩ := parse_iff_means hread
  have hparse : parse "=-2^3^2 <> iF(True)" = .ok (.binary .notEqual
      (.binary .power (.unary .negate (.literal (.int 2)))
        (.binary .power (.literal (.int 3)) (.literal (.int 2))))
      (.call "IF" [.literal (.bool true)])) := rfl
  refine ⟨hread, fun e => ⟨fun he => hunique _ _ he ((hiff _).1 hparse), ?_⟩⟩
  rintro rfl
  exact (hiff _).1 hparse

end RecordCalc.Formula
