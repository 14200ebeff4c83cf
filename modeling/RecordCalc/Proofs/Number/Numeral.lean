import Mathlib.Data.List.TakeWhile
import RecordCalc.Number.Numeral

/-
  The written forms of numerals. What is scanned off the front of a text is a written form
  (`isWritten_of_scan?`), and no written form at the front reaches further (`scan?_reaches`); one
  that the rest does not go on with is scanned as it is (`scan?_toChars`).
-/

namespace RecordCalc.Numeral

open Text (isDigit)

/-- Digits around an optional point, at least one of them. -/
structure IsMantissa (w : List Char) (f : Option (List Char)) : Prop where
  whole : ∀ c ∈ w, isDigit c
  fraction : ∀ c ∈ f.getD [], isDigit c
  digit : w ++ f.getD [] ≠ []

/-- A mark, an optional sign and at least one digit. -/
structure IsExponent (m : Char) (s : Option Char) (ds : List Char) : Prop where
  mark : m = 'e' ∨ m = 'E'
  sign : s = none ∨ s = some '+' ∨ s = some '-'
  digits : ∀ c ∈ ds, isDigit c
  digit : ds ≠ []

/-- The written forms of numerals. -/
structure IsWritten (n : Numeral) : Prop where
  mantissa : IsMantissa n.whole n.fraction
  exponent : ∀ m s ds, n.exponent = some (m, s, ds) → IsExponent m s ds

/-- Whether a numeral could go on with a character. -/
def goesOn (c : Char) : Bool := isDigit c || c == '.' || c == 'e' || c == 'E'

/-- A text with which no numeral goes on. -/
def Stops (rest : List Char) : Prop := ∀ c ∈ rest.head?, goesOn c = false

/-- The characters of a fraction, with its point. -/
def fractionChars : Option (List Char) → List Char
  | none => []
  | some ds => '.' :: ds

/-- The characters of an exponent. -/
def exponentChars : Option (Char × Option Char × List Char) → List Char
  | none => []
  | some (m, s, ds) => m :: s.toList ++ ds

theorem toChars_eq (n : Numeral) :
    n.toChars = n.whole ++ fractionChars n.fraction ++ exponentChars n.exponent := by
  obtain ⟨whole, fraction, exponent⟩ := n
  cases fraction <;> cases exponent <;> rfl

section
variable {w ds rest cs : List Char} {f : Option (List Char)} {m : Char} {s : Option Char}

/-! ## Digits -/

theorem not_isDigit_point : isDigit '.' = false := by decide

theorem not_isDigit_sign {c : Char} (h : isDigit c = true) : c ≠ '+' ∧ c ≠ '-' := by
  refine ⟨?_, ?_⟩ <;> rintro rfl <;> revert h <;> decide

theorem not_isDigit_mark (h : m = 'e' ∨ m = 'E') : isDigit m = false ∧ m ≠ '.' := by
  rcases h with rfl | rfl <;> decide

theorem scanDigits_append (h : ∀ c ∈ ds, isDigit c) (rest : List Char) :
    scanDigits (ds ++ rest) = (ds ++ rest.takeWhile isDigit, rest.dropWhile isDigit) := by
  rw [scanDigits, List.takeWhile_append_of_pos h, List.dropWhile_append_of_pos h]

theorem takeWhile_of_head (h : ∀ c ∈ rest.head?, isDigit c = false) :
    rest.takeWhile isDigit = [] ∧ rest.dropWhile isDigit = rest := by
  cases rest with
  | nil => exact ⟨rfl, rfl⟩
  | cons c rest =>
    have hc : ¬ isDigit c = true := by simp [h c rfl]
    exact ⟨List.takeWhile_cons_of_neg hc, List.dropWhile_cons_of_neg hc⟩

theorem scanDigits_append_of_head (h : ∀ c ∈ ds, isDigit c)
    (hrest : ∀ c ∈ rest.head?, isDigit c = false) : scanDigits (ds ++ rest) = (ds, rest) := by
  obtain ⟨htake, hdrop⟩ := takeWhile_of_head hrest
  rw [scanDigits_append h, htake, hdrop, List.append_nil]

theorem scanDigits_sound {r : List Char} (h : scanDigits cs = (ds, r)) :
    (∀ c ∈ ds, isDigit c) ∧ cs = ds ++ r := by
  unfold scanDigits at h
  obtain ⟨rfl, rfl⟩ := Prod.mk.inj h
  exact ⟨fun c hc => List.mem_takeWhile_imp hc, List.takeWhile_append_dropWhile.symm⟩

/-! ## Exponents -/

theorem scanSign_append (h : s = none ∨ s = some '+' ∨ s = some '-') {c : Char}
    (hc : isDigit c = true) (cs : List Char) :
    scanSign (s.toList ++ c :: cs) = (s, c :: cs) := by
  rcases h with rfl | rfl | rfl
  · obtain ⟨hplus, hminus⟩ := not_isDigit_sign hc
    simp [scanSign, hplus, hminus]
  · rfl
  · rfl

theorem scanSign_sound {r : List Char} (h : scanSign cs = (s, r)) :
    (s = none ∨ s = some '+' ∨ s = some '-') ∧ cs = s.toList ++ r := by
  unfold scanSign at h
  split at h <;> obtain ⟨rfl, rfl⟩ := Prod.mk.inj h <;> simp

theorem scanExponent_append (h : IsExponent m s ds) (rest : List Char) :
    scanExponent (exponentChars (some (m, s, ds)) ++ rest) =
      (some (m, s, ds ++ rest.takeWhile isDigit), rest.dropWhile isDigit) := by
  obtain ⟨d, ds', rfl⟩ := List.exists_cons_of_ne_nil h.digit
  have hmark : (decide (m = 'e') || decide (m = 'E')) = true := by simpa using h.mark
  have hsign := scanSign_append h.sign (h.digits d List.mem_cons_self) (ds' ++ rest)
  have hdigits := scanDigits_append h.digits rest
  rw [List.cons_append] at hdigits
  simp only [exponentChars, List.cons_append, List.append_assoc, scanExponent, if_pos hmark, hsign,
    hdigits]

theorem scanExponent_of_head (h : ∀ c ∈ rest.head?, c ≠ 'e' ∧ c ≠ 'E') :
    scanExponent rest = (none, rest) := by
  cases rest with
  | nil => rfl
  | cons c rest =>
    obtain ⟨he, hE⟩ := h c rfl
    rw [scanExponent, if_neg (by simp [he, hE])]

theorem scanExponent_sound {e : Option (Char × Option Char × List Char)} {r : List Char}
    (h : scanExponent cs = (e, r)) :
    (∀ m s ds, e = some (m, s, ds) → IsExponent m s ds) ∧ cs = exponentChars e ++ r := by
  unfold scanExponent at h
  split at h
  · next c cs =>
    split at h
    · next hmark =>
      rcases hsign : scanSign cs with ⟨s, rest⟩
      rcases hdigits : scanDigits rest with ⟨ds, rest'⟩
      simp only [hsign, hdigits] at h
      obtain ⟨hs, rfl⟩ := scanSign_sound hsign
      obtain ⟨hds, rfl⟩ := scanDigits_sound hdigits
      cases ds with
      | nil =>
        obtain ⟨rfl, rfl⟩ := Prod.mk.inj h
        exact ⟨by simp, rfl⟩
      | cons d ds =>
        obtain ⟨rfl, rfl⟩ := Prod.mk.inj h
        refine ⟨?_, by simp [exponentChars]⟩
        rintro _ _ _ ⟨⟩
        exact ⟨by simpa using hmark, hs, hds, List.cons_ne_nil d ds⟩
    · obtain ⟨rfl, rfl⟩ := Prod.mk.inj h
      exact ⟨by simp, rfl⟩
  · obtain ⟨rfl, rfl⟩ := Prod.mk.inj h
    exact ⟨by simp, rfl⟩

/-! ## Mantissas -/

theorem scanMantissa_point (h : IsMantissa w (some ds)) (rest : List Char) :
    scanMantissa (w ++ fractionChars (some ds) ++ rest) =
      some (w, some (ds ++ rest.takeWhile isDigit), rest.dropWhile isDigit) := by
  have hwhole : scanDigits (w ++ '.' :: (ds ++ rest)) = (w, '.' :: (ds ++ rest)) :=
    scanDigits_append_of_head h.whole (by simp [not_isDigit_point])
  have hfraction : scanDigits (ds ++ rest) =
      (ds ++ rest.takeWhile isDigit, rest.dropWhile isDigit) := scanDigits_append h.fraction rest
  unfold scanMantissa
  simp only [fractionChars, List.append_assoc, List.cons_append, hwhole]
  cases w with
  | nil =>
    obtain ⟨d, ds', rfl⟩ := List.exists_cons_of_ne_nil h.digit
    simp only [hfraction]
    rfl
  | cons c w => simp only [hfraction]

theorem scanMantissa_whole (h : IsMantissa w none) (hrest : ∀ c ∈ rest.head?, isDigit c = false)
    (hpoint : ∀ c ∈ rest.head?, c ≠ '.') :
    scanMantissa (w ++ rest) = some (w, none, rest) := by
  obtain ⟨d, w', rfl⟩ := List.exists_cons_of_ne_nil (List.append_nil w ▸ h.digit)
  unfold scanMantissa
  rw [scanDigits_append_of_head h.whole hrest]
  split
  · next heq => cases heq
  · next heq => cases heq
  · next heq =>
    cases heq
    exact absurd rfl (hpoint '.' rfl)
  · next _ _ heq =>
    cases heq
    rfl

theorem scanMantissa_append (h : IsMantissa w f) {rest : List Char}
    (hrest : ∀ c ∈ rest.head?, isDigit c = false ∧ c ≠ '.') :
    scanMantissa (w ++ fractionChars f ++ rest) = some (w, f, rest) := by
  have hdigit : ∀ c ∈ rest.head?, isDigit c = false := fun c hc => (hrest c hc).1
  cases f with
  | none =>
    rw [fractionChars, List.append_nil]
    exact scanMantissa_whole h hdigit fun c hc => (hrest c hc).2
  | some ds =>
    obtain ⟨htake, hdrop⟩ := takeWhile_of_head hdigit
    rw [scanMantissa_point h, htake, hdrop, List.append_nil]

theorem scanMantissa_reaches (h : IsMantissa w f) (rest : List Char) :
    ∃ w' f' r, scanMantissa (w ++ fractionChars f ++ rest) = some (w', f', r) ∧ r <:+ rest := by
  cases f with
  | some ds => exact ⟨_, _, _, scanMantissa_point h rest, List.dropWhile_suffix _⟩
  | none =>
    obtain ⟨d, w', rfl⟩ := List.exists_cons_of_ne_nil (List.append_nil w ▸ h.digit)
    have hsuffix : rest.dropWhile isDigit <:+ rest := List.dropWhile_suffix _
    have hdigits := scanDigits_append h.whole rest
    rw [fractionChars, List.append_nil]
    unfold scanMantissa
    rw [hdigits]
    split
    · next heq => cases heq
    · next heq => cases heq
    · next whole after _ heq =>
      -- the point is not part of the written form, but what is scanned takes it along
      have hafter : '.' :: after <:+ rest := (Prod.mk.inj heq).2 ▸ hsuffix
      exact ⟨_, _, _, rfl,
        ((List.dropWhile_suffix _).trans (List.suffix_cons _ _)).trans hafter⟩
    · next whole after _ _ heq => exact ⟨_, _, _, rfl, (Prod.mk.inj heq).2 ▸ hsuffix⟩

theorem scanMantissa_sound {r : List Char} (h : scanMantissa cs = some (w, f, r)) :
    IsMantissa w f ∧ cs = w ++ fractionChars f ++ r := by
  unfold scanMantissa at h
  rcases hdigits : scanDigits cs with ⟨whole, rest⟩
  obtain ⟨hwhole, rfl⟩ := scanDigits_sound hdigits
  rw [hdigits] at h
  split at h
  · next rest heq =>
    cases heq
    rcases hfraction : scanDigits rest with ⟨_ | ⟨d, ds⟩, rest'⟩
    · rw [hfraction] at h
      cases h
    · rw [hfraction] at h
      cases h
      obtain ⟨hds, rfl⟩ := scanDigits_sound hfraction
      exact ⟨⟨by simp, hds, by simp⟩, by simp [fractionChars]⟩
  · cases h
  · next whole rest hne heq =>
    cases heq
    rcases hfraction : scanDigits rest with ⟨ds, rest'⟩
    rw [hfraction] at h
    cases h
    obtain ⟨hds, rfl⟩ := scanDigits_sound hfraction
    exact ⟨⟨hwhole, hds, fun heq => hne (List.append_eq_nil_iff.1 heq).1⟩, by simp [fractionChars]⟩
  · next whole rest hne _ heq =>
    cases heq
    cases h
    exact ⟨⟨hwhole, by simp, fun heq => hne (List.append_eq_nil_iff.1 heq).1⟩,
      by simp [fractionChars]⟩

end

/-! ## Numerals -/

/-- What is scanned is a written form at the front of the text. -/
theorem isWritten_of_scan? {cs r : List Char} {n : Numeral} (h : scan? cs = some (n, r)) :
    n.IsWritten ∧ cs = n.toChars ++ r := by
  unfold scan? at h
  split at h
  · cases h
  · next w f rest hmantissa =>
    rcases hexponent : scanExponent rest with ⟨e, r'⟩
    rw [hexponent] at h
    cases h
    obtain ⟨hw, rfl⟩ := scanMantissa_sound hmantissa
    obtain ⟨he, rfl⟩ := scanExponent_sound hexponent
    exact ⟨⟨hw, he⟩, by rw [toChars_eq, List.append_assoc _ _ r]⟩

variable {n : Numeral} {rest : List Char}

theorem scan?_of_exponent (h : n.IsWritten) {m : Char} {s : Option Char} {ds : List Char}
    (he : n.exponent = some (m, s, ds)) (rest : List Char) :
    scan? (n.toChars ++ rest) =
      some (⟨n.whole, n.fraction, some (m, s, ds ++ rest.takeWhile isDigit)⟩,
        rest.dropWhile isDigit) := by
  have hexponent := h.exponent m s ds he
  have hhead : ∀ c ∈ (exponentChars (some (m, s, ds)) ++ rest).head?,
      isDigit c = false ∧ c ≠ '.' := by
    rintro c ⟨⟩
    exact not_isDigit_mark hexponent.mark
  have hmantissa := scanMantissa_append h.mantissa hhead
  have htail := scanExponent_append hexponent rest
  rw [toChars_eq, List.append_assoc _ _ rest, he]
  simp only [scan?, hmantissa, htail]

/-- No written form at the front of a text reaches further than what is scanned. -/
theorem scan?_reaches (h : n.IsWritten) (rest : List Char) :
    ∃ n' r, scan? (n.toChars ++ rest) = some (n', r) ∧ r <:+ rest := by
  cases he : n.exponent with
  | some e => exact ⟨_, _, scan?_of_exponent h he rest, List.dropWhile_suffix _⟩
  | none =>
    obtain ⟨w, f, r, hmantissa, hr⟩ := scanMantissa_reaches h.mantissa rest
    rcases hexponent : scanExponent r with ⟨e, r'⟩
    obtain ⟨-, hr'⟩ := scanExponent_sound hexponent
    have hsuffix : r' <:+ r := hr' ▸ List.suffix_append _ _
    refine ⟨⟨w, f, e⟩, r', ?_, hsuffix.trans hr⟩
    rw [toChars_eq, he, exponentChars, List.append_nil]
    simp only [scan?, hmantissa, hexponent]

theorem Stops.head (h : Stops rest) {c : Char} (hc : c ∈ rest.head?) :
    (isDigit c = false ∧ c ≠ '.') ∧ c ≠ 'e' ∧ c ≠ 'E' := by
  have hgo := h c hc
  simp only [goesOn, Bool.or_eq_false_iff, beq_eq_false_iff_ne] at hgo
  obtain ⟨⟨⟨hdigit, hpoint⟩, he⟩, hE⟩ := hgo
  exact ⟨⟨hdigit, hpoint⟩, he, hE⟩

/-- A written form is scanned as it is where the text does not go on with it. -/
theorem scan?_toChars (h : n.IsWritten) (hrest : Stops rest) :
    scan? (n.toChars ++ rest) = some (n, rest) := by
  cases he : n.exponent with
  | some e =>
    obtain ⟨htake, hdrop⟩ := takeWhile_of_head fun c hc => (hrest.head hc).1.1
    rw [scan?_of_exponent h he, htake, hdrop, List.append_nil, ← he]
  | none =>
    have hmantissa := scanMantissa_append h.mantissa fun c hc => (hrest.head hc).1
    have htail := scanExponent_of_head fun c hc => (hrest.head hc).2
    rw [toChars_eq, he, exponentChars, List.append_nil]
    simp only [scan?, hmantissa, htail, ← he]

/-- A numeral starts with a digit or a point. -/
theorem IsWritten.head (h : n.IsWritten) :
    ∃ c cs, n.toChars = c :: cs ∧ (isDigit c = true ∨ c = '.') := by
  obtain ⟨whole, fraction, exponent⟩ := n
  have hm := h.mantissa
  rw [toChars_eq]
  cases whole with
  | cons d w => exact ⟨d, _, rfl, Or.inl (hm.whole d List.mem_cons_self)⟩
  | nil =>
    cases fraction with
    | none => exact absurd rfl hm.digit
    | some ds => exact ⟨'.', _, rfl, Or.inr rfl⟩

/-- Numerals are made up of digits, points, the marks of exponents and signs. -/
theorem IsWritten.of_mem (h : n.IsWritten) {c : Char} (hc : c ∈ n.toChars) :
    isDigit c = true ∨ c ∈ ['.', 'e', 'E', '+', '-'] := by
  obtain ⟨whole, fraction, exponent⟩ := n
  rw [toChars_eq, List.mem_append, List.mem_append] at hc
  rcases hc with (hc | hc) | hc
  · exact Or.inl (h.mantissa.whole c hc)
  · cases fraction with
    | none => cases hc
    | some ds =>
      rcases List.mem_cons.1 hc with rfl | hc
      · exact Or.inr (by decide)
      · exact Or.inl (h.mantissa.fraction c hc)
  · cases exponent with
    | none => cases hc
    | some parts =>
      obtain ⟨m, s, ds⟩ := parts
      have hexponent := h.exponent m s ds rfl
      rw [exponentChars, List.mem_append, List.mem_cons] at hc
      rcases hc with (rfl | hc) | hc
      · rcases hexponent.mark with rfl | rfl <;> exact Or.inr (by decide)
      · rcases hexponent.sign with rfl | rfl | rfl
        · cases hc
        · rw [List.mem_singleton.1 hc]
          exact Or.inr (by decide)
        · rw [List.mem_singleton.1 hc]
          exact Or.inr (by decide)
      · exact Or.inl (hexponent.digits c hc)

theorem scan?_eq_none {c : Char} (hdigit : isDigit c = false) (hpoint : c ≠ '.')
    (cs : List Char) : scan? (c :: cs) = none := by
  cases hscan : scan? (c :: cs) with
  | none => rfl
  | some found =>
    obtain ⟨n, r⟩ := found
    obtain ⟨hn, heq⟩ := isWritten_of_scan? hscan
    obtain ⟨c', cs', hc', hhead⟩ := hn.head
    rw [hc', List.cons_append] at heq
    obtain ⟨rfl, -⟩ := List.cons.inj heq
    rcases hhead with hhead | rfl
    · rw [hdigit] at hhead
      cases hhead
    · exact absurd rfl hpoint

end RecordCalc.Numeral
