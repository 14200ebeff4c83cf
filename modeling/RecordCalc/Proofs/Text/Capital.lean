import RecordCalc.Text.Case

/-
  Upper case of texts that need none. The tables of letters with an upper case start at the small
  letter a, so every text of characters before it is its own upper case.
-/

namespace RecordCalc.Text

/-- Whether a character stands before the small letter a. -/
def isBeforeSmall (c : Char) : Bool := c.toNat < 97

theorem find?_upperSequences {n : Nat} (h : n < 97) :
    upperSequences.find? (·.1 == n) = none := by
  have htable : ∀ e ∈ upperSequences.toList, 97 ≤ e.1 := by decide +kernel
  rw [Array.find?_eq_none]
  intro e he
  have := htable e (Array.mem_toList_iff.2 he)
  simp only [beq_iff_eq]
  omega

theorem findSome?_upperSpans {n : Nat} (h : n < 97) : upperSpans.findSome? (·.map? n) = none := by
  have htable : ∀ s ∈ upperSpans.toList, 97 ≤ s.first := by decide +kernel
  rw [Array.findSome?_eq_none_iff]
  intro s hs
  have := htable s (Array.mem_toList_iff.2 hs)
  have hfirst : ¬ s.first ≤ n := by omega
  simp [CaseSpan.map?, hfirst]

theorem upperChar_of_isBeforeSmall {c : Char} (h : isBeforeSmall c) : upperChar c = [c] := by
  have hc : c.toNat < 97 := by simpa [isBeforeSmall] using h
  simp [upperChar, mapBySpans, find?_upperSequences hc, findSome?_upperSpans hc]

theorem upper_of_isBeforeSmall {s : String} (h : s.toList.all isBeforeSmall) : upper s = s := by
  have hchars : s.toList.flatMap upperChar = s.toList := by
    have hall : ∀ c ∈ s.toList, isBeforeSmall c := by simpa using h
    generalize s.toList = cs at hall
    induction cs with
    | nil => rfl
    | cons c cs ih =>
      rw [List.flatMap_cons, upperChar_of_isBeforeSmall (hall c List.mem_cons_self),
        ih fun c' hc' => hall c' (List.mem_cons_of_mem _ hc')]
      rfl
  rw [upper, hchars, String.ofList_toList]

end RecordCalc.Text
