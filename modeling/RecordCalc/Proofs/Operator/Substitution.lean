import Mathlib.Algebra.Group.Int.Defs
import RecordCalc.Proofs.Operator.Texts
import RecordCalc.Proofs.Text.Parts

/-
  Substitution. The text falls into parts at the occurrences that are found from left to right, and
  substitution joins the parts again with another text in the first gaps (`substitute_fills`): all
  of them, or as many as the count says.
-/

namespace RecordCalc.Texts

open Outcomes (ok_bind)
open Text (Splits filled)

variable {s old new : String} {parts : List (List Char)} {k : Nat} {c : Int}

theorem substitute_empty (s new : String) (count : Value) :
    substitute (.text s) (.text "") (.text new) count = .ok (.text s) := by
  unfold substitute
  rw [charsOf_text, charsOf_text, ok_bind, ok_bind, ← ofChars_toList s]
  rfl

/-- What a count of replacements comes to. -/
theorem replacementLimit_int (hc : c < 2 ^ 63) :
    replacementLimit (.int c) = .ok (some c.toNat) := by
  have hlimit : ¬ countLimit < c.toNat := by
    have hpow : countLimit = 2 ^ 63 - 1 := rfl
    omega
  exact if_neg hlimit

theorem length_ofChars (cs : List Char) : length (ofChars cs) = .ok (.int cs.length) := by
  rw [ofChars, length_text, String.length_ofList]

section
variable (h : Splits old.toList s.toList parts)

include h

theorem substitute_of_splits (hold : old ≠ "") {count : Value} {limit : Option Nat}
    (hlimit : replacementLimit count = .ok limit) :
    substitute (.text s) (.text old) (.text new) count =
      .ok (ofChars (filled old.toList new.toList (limit.getD (parts.length - 1)) parts)) := by
  have hnil : old.toList ≠ [] := mt String.toList_eq_nil_iff.1 hold
  unfold substitute
  simp only [charsOf_text, ok_bind, hlimit, List.isEmpty_iff, if_neg hnil]
  rw [Text.replace, if_neg (mt List.isEmpty_iff.1 hnil), h.replaceFrom_eq hnil]
  rfl

/-- Without a count all gaps are filled. -/
theorem substitute_all (hold : old ≠ "") :
    substitute (.text s) (.text old) (.text new) .null =
      .ok (ofChars (new.toList.intercalate parts)) := by
  rw [substitute_of_splits h hold rfl, Option.getD_none, Text.filled_all _ _ (by omega)]

/-- With a count as many as it says are filled, if there are as many. -/
theorem substitute_first (hold : old ≠ "") (hc : c < 2 ^ 63) :
    substitute (.text s) (.text old) (.text new) (.int c) =
      .ok (ofChars (filled old.toList new.toList (min (parts.length - 1) c.toNat) parts)) := by
  rw [substitute_of_splits h hold (replacementLimit_int hc), Option.getD_some]
  rcases Nat.le_total (parts.length - 1) c.toNat with hle | hle
  · rw [Nat.min_eq_left hle, Text.filled_all _ _ (by omega), Text.filled_all _ _ (by omega)]
  · rw [Nat.min_eq_right hle]

theorem substitute_self (hold : old ≠ "") :
    substitute (.text s) (.text old) (.text old) .null = .ok (.text s) := by
  rw [substitute_of_splits h hold rfl, Text.filled_self, h.filled_zero, ofChars_toList]

theorem length_filled_text (hk : k ≤ parts.length - 1) :
    length (ofChars (filled old.toList new.toList k parts)) =
      .ok (.int (s.length + k * (new.length - old.length))) := by
  have hpos := List.length_pos_iff.2 h.ne_nil
  have hgaps : k + 1 ≤ parts.length := by omega
  have hlength := Text.length_filled old.toList new.toList hgaps
  rw [h.filled_zero, String.length_toList, String.length_toList, String.length_toList] at hlength
  have hcast : ((filled old.toList new.toList k parts).length : Int) + k * old.length =
      s.length + k * new.length := by exact_mod_cast hlength
  rw [length_ofChars, Int.mul_sub]
  congr 3
  omega

end

/-- Substitution in a text: nothing is done for an empty text to replace; any other occurs between
the parts into which the text falls from left to right, and is replaced at the first of these
places, as many as the count says, or at all of them without a count. -/
theorem substitute_fills (s old new : String) :
    (old = "" → substituteRule [.text s, .text old, .text new] = .ok (.text s) ∧
      ∀ count, substituteRule [.text s, .text old, .text new, count] = .ok (.text s)) ∧
    (old ≠ "" → ∃ parts, (∀ ps, Splits old.toList s.toList ps ↔ ps = parts) ∧
      substituteRule [.text s, .text old, .text new] =
        .ok (ofChars (new.toList.intercalate parts)) ∧
      length (ofChars (new.toList.intercalate parts)) =
        .ok (.int (s.length + (parts.length - 1 : Nat) * (new.length - old.length))) ∧
      (∀ c : Int, c < 2 ^ 63 →
        let k := min (parts.length - 1) c.toNat
        substituteRule [.text s, .text old, .text new, .int c] =
            .ok (ofChars (filled old.toList new.toList k parts)) ∧
          length (ofChars (filled old.toList new.toList k parts)) =
            .ok (.int (s.length + k * (new.length - old.length)))) ∧
      substituteRule [.text s, .text old, .text old] = .ok (.text s)) := by
  refine ⟨?_, fun hold => ?_⟩
  · rintro rfl
    exact ⟨congrArg Rule.lift (substitute_empty s new .null),
      fun count => congrArg Rule.lift (substitute_empty s new count)⟩
  obtain ⟨parts, h⟩ := Text.exists_splits (mt String.toList_eq_nil_iff.1 hold) s.toList
  have hall : filled old.toList new.toList (parts.length - 1) parts =
      new.toList.intercalate parts := Text.filled_all _ _ (by omega)
  exact ⟨parts, fun _ => Text.splits_iff h, congrArg Rule.lift (substitute_all h hold),
    hall ▸ length_filled_text h (Nat.le_refl _),
    fun c hc => ⟨congrArg Rule.lift (substitute_first h hold hc),
      length_filled_text h (Nat.min_le_left _ _)⟩,
    congrArg Rule.lift (substitute_self h hold)⟩

/-- Of the occurrences that overlap only the left ones count, and those that a replacement makes are
not replaced again. -/
theorem substitute_fills_overlap :
    "aa" ≠ "" ∧ (1 : Int) < 2 ^ 63 ∧
      (∀ ps, Splits "aa".toList "aaaaab".toList ps ↔ ps = [[], [], ['a', 'b']]) ∧
      substituteRule [.text "aaaaab", .text "aa", .text "aab"] = .ok (.text "aabaabab") ∧
      substituteRule [.text "aaaaab", .text "aa", .text "aab", .int 1] = .ok (.text "aabaaab") ∧
      substituteRule [.text "aaaaab", .text "aa", .text "aa"] = .ok (.text "aaaaab") := by
  have hold : "aa" ≠ "" := by decide
  obtain ⟨parts, hparts, hall, -, hfirst, hself⟩ := (substitute_fills "aaaaab" "aa" "aab").2 hold
  have hlast : Splits "aa".toList ['a', 'b'] [['a', 'b']] := by
    refine .last fun i hi => ?_
    obtain ⟨hle, hslice⟩ := Text.occursAt_iff_slice.1 hi
    have hlength : i + 2 ≤ 2 := hle
    obtain rfl : i = 0 := by omega
    exact absurd hslice (by decide)
  have hsplits : Splits "aa".toList "aaaaab".toList [[], [], ['a', 'b']] :=
    .cut (p := []) (fun _ _ => Nat.zero_le _)
      (.cut (p := []) (fun _ _ => Nat.zero_le _) hlast)
  obtain rfl := (hparts _).1 hsplits
  exact ⟨hold, by decide, hparts, hall, (hfirst 1 (by decide)).1, hself⟩

end RecordCalc.Texts
