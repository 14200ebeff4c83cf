import RecordCalc.Proofs.Number.Numeral
import RecordCalc.Proofs.Text.Digits
import RecordCalc.Proofs.Value.Coercion
import RecordCalc.Proofs.Value.Writing
import RecordCalc.Value.Compare

/-
  Integers as texts. The text of an integer reads back as that integer, whatever commas are put into
  it and blanks around it, and is equal to it. Nothing is lost beyond the precision of
  floating-point numbers, up to the limit on the number of digits.
-/

namespace RecordCalc

/-! ## Reading the digits -/

namespace Number

theorem isWritten_digits (n : Nat) : (Numeral.mk (Nat.toDigits 10 n) none none).IsWritten :=
  ⟨⟨fun _ => Text.isDigit_of_mem_toDigits, by simp, by simp⟩, by simp⟩

theorem scan?_toDigits (n : Nat) :
    Numeral.scan? (Nat.toDigits 10 n) = some (⟨Nat.toDigits 10 n, none, none⟩, []) := by
  have hstops : Numeral.Stops [] := by simp [Numeral.Stops]
  simpa [Numeral.toChars] using Numeral.scan?_toChars (isWritten_digits n) hstops

theorem scanSign_toDigits (n : Nat) :
    Numeral.scanSign (Nat.toDigits 10 n) = (none, Nat.toDigits 10 n) := by
  obtain ⟨d, ds, hdigits⟩ := List.exists_cons_of_ne_nil (Nat.toDigits_ne_nil (n := n) (b := 10))
  have hd : Text.isDigit d = true :=
    Text.isDigit_of_mem_toDigits (hdigits ▸ List.mem_cons_self)
  rw [hdigits]
  exact Numeral.scanSign_append (.inl rfl) hd ds

/-- The text of an integer is scanned as its digits and its sign. -/
theorem scanSigned?_toString (n : Int) :
    scanSigned? (toString n).toList =
      some (⟨Nat.toDigits 10 n.natAbs, none, none⟩, decide (n < 0)) := by
  rw [Text.toList_toString]
  by_cases hn : n < 0
  · rw [if_pos hn, decide_eq_true hn]
    simp only [scanSigned?, List.cons_append, List.nil_append, Numeral.scanSign, scan?_toDigits]
    rfl
  · rw [if_neg hn, decide_eq_false hn]
    simp only [scanSigned?, List.nil_append, scanSign_toDigits, scan?_toDigits]
    rfl

theorem ofNumeral_digits {n : Int} (h : (Nat.toDigits 10 n.natAbs).length ≤ Fault.digitLimit) :
    ofNumeral ⟨Nat.toDigits 10 n.natAbs, none, none⟩ (decide (n < 0)) = .int n := by
  have hwhole : Numeral.isWhole ⟨Nat.toDigits 10 n.natAbs, none, none⟩ = true := rfl
  rw [ofNumeral, if_pos (by simpa [hwhole] using h), Text.digitsValue_toDigits,
    Binary64.signed_natAbs]

/-- The text of an integer is read as that integer, with commas in it and blanks around it too. -/
theorem read?_integerText {n : Int} (h : (Nat.toDigits 10 n.natAbs).length ≤ Fault.digitLimit)
    {before body after : List Char} (hbefore : ∀ c ∈ before, Text.isBlank c = true)
    (hafter : ∀ c ∈ after, Text.isBlank c = true)
    (hbody : body.filter (· != ',') = (toString n).toList) :
    read? (String.ofList (before ++ body ++ after)) = some (.int n) := by
  have hblank : ∀ c ∈ body, Text.isBlank c = false := by
    intro c hc
    by_cases hcomma : c = ','
    · subst hcomma
      decide
    · have hmem : c ∈ (toString n).toList := by
        rw [← hbody]
        exact List.mem_filter.2 ⟨hc, by simpa using hcomma⟩
      exact Text.isBlank_of_mem_toString hmem
  rw [read?, String.toList_ofList, Text.trimChars_surrounded hbefore hafter hblank, hbody,
    scanSigned?_toString]
  exact congrArg some (ofNumeral_digits h)

end Number

/-! ## The text of an integer -/

namespace Value

theorem toText_int {n : Int} (h : (Nat.toDigits 10 n.natAbs).length ≤ Fault.digitLimit) :
    (int n).toText = .ok (toString n) := by
  show Number.intText n = _
  rw [Number.intText, Binary64.decimalLength, if_neg (Nat.not_lt.2 h)]

/-- A text that reads as an integer converts to it in both modes. -/
theorem coerce_of_read? {s : String} {n : Int} (h : Number.read? s = some (.int n))
    (strict : Bool) : (text s).coerce .number strict = .ok (int n) := by
  have hnumber : (text s).toNumber? = some (.int n) := h
  exact coerce_of_toNumber? hnumber strict

/-- A text that reads as an integer is equal to it. -/
theorem equals_of_read? {s : String} {n : Int} (h : Number.read? s = some (.int n)) :
    (text s).equals (int n) = .ok true ∧ (int n).equals (text s) = .ok true := by
  have hnumber : (text s).toNumber? = some (.int n) := h
  have hint : (int n).toNumber? = some (.int n) := rfl
  have hpresent : (text s).isAbsent true = false := by
    refine Bool.eq_false_iff.2 fun habsent => ?_
    have hempty : s = "" := by simpa [isAbsent] using habsent
    rw [hempty] at h
    cases h
  have hself : (Number.int n).equal (.int n) = true := by simp [Number.equal]
  constructor
  · unfold equals
    rw [hpresent, hnumber, hint]
    exact congrArg Except.ok hself
  · unfold equals
    rw [hpresent, hnumber, hint]
    exact congrArg Except.ok hself

/-- The text of an integer with no more digits than are written, with commas put into it and blanks
around it, converts to that integer in both modes and is equal to it. -/
theorem coerce_integerText {n : Int} (h : (Nat.toDigits 10 n.natAbs).length ≤ Fault.digitLimit) :
    ∃ s, (int n).toText = .ok s ∧
      ∀ before body after : List Char, (∀ c ∈ before, Text.isBlank c = true) →
        (∀ c ∈ after, Text.isBlank c = true) → body.filter (· != ',') = s.toList →
        (∀ strict, (text (String.ofList (before ++ body ++ after))).coerce .number strict =
          .ok (int n)) ∧
        (text (String.ofList (before ++ body ++ after))).equals (int n) = .ok true ∧
        (int n).equals (text (String.ofList (before ++ body ++ after))) = .ok true := by
  refine ⟨toString n, toText_int h, fun before body after hbefore hafter hbody => ?_⟩
  have hread := Number.read?_integerText h hbefore hafter hbody
  exact ⟨coerce_of_read? hread, equals_of_read? hread⟩

theorem coerce_integerText_grouped :
    (Nat.toDigits 10 (-9007199254740993 : Int).natAbs).length ≤ Fault.digitLimit ∧
      (int (-9007199254740993)).toText = .ok "-9007199254740993" ∧
      (∀ strict, (text "\t ,-9,007,199,254,740,993,\n").coerce .number strict =
        .ok (int (-9007199254740993))) ∧
      (text "\t ,-9,007,199,254,740,993,\n").equals (int (-9007199254740993)) = .ok true := by
  have hlength : (Nat.toDigits 10 (-9007199254740993 : Int).natAbs).length ≤ Fault.digitLimit := by
    decide +kernel
  have hwritten : (int (-9007199254740993)).toText = .ok "-9007199254740993" := by
    rw [toText_int hlength]
    rfl
  obtain ⟨s, htext, h⟩ := coerce_integerText hlength
  obtain rfl : "-9007199254740993" = s := Except.ok.inj (hwritten.symm.trans htext)
  obtain ⟨hcoerce, hequals, -⟩ := h ['\t', ' '] ",-9,007,199,254,740,993,".toList ['\n']
    (List.forall_mem_cons.2 ⟨rfl, List.forall_mem_singleton.2 rfl⟩)
    (List.forall_mem_singleton.2 rfl) (by decide +kernel)
  exact ⟨hlength, htext, hcoerce, hequals⟩

end Value

end RecordCalc
