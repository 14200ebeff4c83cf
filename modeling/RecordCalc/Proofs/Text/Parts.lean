import Mathlib.Logic.Basic
import RecordCalc.Proofs.Text.Search

/-
  Replacing occurrences in a text. A text falls into the parts between the occurrences that are
  found one after the other from left to right (`Splits`), in just one way (`splits_iff`). A
  replacement fills the gaps between the parts again, the first ones with another text, as many as
  it may (`Splits.replaceFrom_eq`).
-/

namespace RecordCalc.Text

variable {old new cs rest p q : List Char} {ps parts : List (List Char)} {limit : Option Nat}
  {k : Nat}

/-! ## The parts of a text -/

/-- The parts of a text between the occurrences of `old`: the first part ends where `old` first
occurs, the other parts are those of the text after that occurrence, and a text in which `old` does
not occur is its only part. -/
inductive Splits (old : List Char) : List Char → List (List Char) → Prop
  | last {cs : List Char} (hnone : ∀ i, ¬ OccursAt old cs i) : Splits old cs [cs]
  | cut {p rest : List Char} {ps : List (List Char)}
      (hfirst : ∀ i, OccursAt old (p ++ (old ++ rest)) i → p.length ≤ i)
      (hrest : Splits old rest ps) : Splits old (p ++ (old ++ rest)) (p :: ps)

theorem Splits.ne_nil (h : Splits old cs parts) : parts ≠ [] := by
  cases h <;> exact List.cons_ne_nil _ _

theorem occursAt_append (p old rest : List Char) : OccursAt old (p ++ (old ++ rest)) p.length := by
  refine ⟨by simp, ?_⟩
  rw [List.drop_left]
  exact List.prefix_append old rest

/-- A text is cut at the place where `old` occurs. -/
theorem eq_append_of_occursAt {i : Nat} (h : OccursAt old cs i) :
    ∃ p rest, cs = p ++ (old ++ rest) ∧ p.length = i := by
  obtain ⟨rest, hrest⟩ := h.2
  exact ⟨cs.take i, rest, by rw [hrest, List.take_append_drop], List.length_take_of_le h.1⟩

theorem exists_splits (hold : old ≠ []) (cs : List Char) : ∃ parts, Splits old cs parts := by
  -- What is left after an occurrence is shorter, as the occurrence is not empty.
  induction hlength : cs.length using Nat.strongRecOn generalizing cs with
  | _ n ih =>
    cases hfind : findFrom old 0 cs with
    | none => exact ⟨[cs], .last (not_occursAt_of_findFrom hfind)⟩
    | some q =>
      obtain ⟨i, -, hoccurs, hleast⟩ := isLeast_of_findFrom hfind
      obtain ⟨p, rest, rfl, rfl⟩ := eq_append_of_occursAt hoccurs
      have hshorter : rest.length < n := by
        have hpos := List.length_pos_iff.2 hold
        rw [List.length_append, List.length_append] at hlength
        omega
      obtain ⟨ps, hps⟩ := ih _ hshorter rest rfl
      exact ⟨p :: ps, .cut (fun _ => @hleast _) hps⟩

theorem Splits.unique (h : Splits old cs parts) (h' : Splits old cs ps) : ps = parts := by
  induction h generalizing ps with
  | last hnone =>
    cases h' with
    | last => rfl
    | cut => exact absurd (occursAt_append ..) (hnone _)
  | @cut p rest parts hfirst hrest ih =>
    -- Each first part ends at an occurrence, and neither occurrence is before the other.
    generalize hcs : p ++ (old ++ rest) = cs at h'
    cases h' with
    | last hnone => exact absurd (hcs ▸ occursAt_append ..) (hnone _)
    | @cut q rest' ps hfirst' hrest' =>
      have hle : p.length ≤ q.length := hfirst _ (hcs ▸ occursAt_append ..)
      have hge : q.length ≤ p.length := hfirst' _ (hcs ▸ occursAt_append ..)
      obtain ⟨rfl, hafter⟩ := List.append_inj hcs (Nat.le_antisymm hle hge)
      obtain rfl := List.append_cancel_left hafter
      rw [ih hrest']

/-- A text falls into parts in one way. -/
theorem splits_iff (h : Splits old cs parts) : Splits old cs ps ↔ ps = parts :=
  ⟨h.unique, fun heq => heq ▸ h⟩

/-! ## Parts with the gaps filled -/

/-- The parts, with the first `k` gaps between them filled by `new` and the others by `old`. -/
def filled (old new : List Char) : Nat → List (List Char) → List Char
  | _, [] => []
  | _, [p] => p
  | 0, p :: q :: ps => p ++ (old ++ filled old new 0 (q :: ps))
  | k + 1, p :: q :: ps => p ++ (new ++ filled old new k (q :: ps))

theorem filled_zero_cons (hps : ps ≠ []) :
    filled old new 0 (p :: ps) = p ++ (old ++ filled old new 0 ps) := by
  cases ps with
  | nil => exact absurd rfl hps
  | cons => rfl

theorem filled_succ_cons (hps : ps ≠ []) :
    filled old new (k + 1) (p :: ps) = p ++ (new ++ filled old new k ps) := by
  cases ps with
  | nil => exact absurd rfl hps
  | cons => rfl

theorem intercalate_cons (hps : ps ≠ []) :
    new.intercalate (p :: ps) = p ++ (new ++ new.intercalate ps) := by
  cases ps with
  | nil => exact absurd rfl hps
  | cons => simp [List.intercalate]

theorem filled_all (old new : List Char) (hk : parts.length ≤ k + 1) :
    filled old new k parts = new.intercalate parts := by
  induction parts generalizing k with
  | nil => simp [filled, List.intercalate]
  | cons p ps ih =>
    rcases eq_or_ne ps [] with rfl | hps
    · simp [filled, List.intercalate]
    · have hlength := List.length_pos_iff.2 hps
      rw [List.length_cons] at hk
      obtain ⟨k, rfl⟩ : ∃ j, k = j + 1 := Nat.exists_eq_add_one_of_ne_zero (by omega)
      rw [filled_succ_cons hps, intercalate_cons hps, ih (by omega)]

/-- Without a gap that is filled anew the text is what it was. -/
theorem Splits.filled_zero (h : Splits old cs parts) : filled old new 0 parts = cs := by
  induction h with
  | last => rfl
  | cut hfirst hrest ih => rw [filled_zero_cons hrest.ne_nil, ih]

theorem filled_self (old : List Char) (k : Nat) (parts : List (List Char)) :
    filled old old k parts = filled old old 0 parts := by
  induction parts generalizing k with
  | nil => rfl
  | cons p ps ih =>
    rcases eq_or_ne ps [] with rfl | hps
    · rfl
    · cases k with
      | zero => rfl
      | succ k => rw [filled_succ_cons hps, filled_zero_cons hps, ih]

/-- Each gap that is filled anew changes the length by the difference of the two texts. -/
theorem length_filled (old new : List Char) (hk : k + 1 ≤ parts.length) :
    (filled old new k parts).length + k * old.length =
      (filled old new 0 parts).length + k * new.length := by
  induction k generalizing parts with
  | zero => rw [Nat.zero_mul, Nat.zero_mul]
  | succ k ih =>
    cases parts with
    | nil => exact absurd hk (Nat.not_succ_le_zero _)
    | cons p ps =>
      rw [List.length_cons] at hk
      have hps : ps ≠ [] := List.length_pos_iff.1 (by omega)
      have hrest := @ih ps (by omega)
      rw [filled_succ_cons hps, filled_zero_cons hps, Nat.succ_mul, Nat.succ_mul]
      simp only [List.length_append]
      omega

/-! ## The replacement -/

theorem replaceFrom_skip (old new : List Char) (skip : Nat) (limit : Option Nat) (cs : List Char) :
    replaceFrom old new skip limit cs = replaceFrom old new 0 limit (cs.drop skip) := by
  induction skip generalizing cs with
  | zero => rfl
  | succ skip ih =>
    cases cs with
    | nil => rw [List.drop_nil, replaceFrom, replaceFrom]
    | cons c cs => rw [replaceFrom, ih, List.drop_succ_cons]

theorem replaceFrom_zero (old new cs : List Char) :
    replaceFrom old new 0 (some 0) cs = cs := by
  induction cs with
  | nil => rfl
  | cons c cs ih => rw [replaceFrom, ih]

theorem replaceFrom_cons {c : Char} (hlimit : limit ≠ some 0) :
    replaceFrom old new 0 limit (c :: cs) =
      if old.isPrefixOf (c :: cs) then
        new ++ replaceFrom old new (old.length - 1) (limit.map (· - 1)) cs
      else c :: replaceFrom old new 0 limit cs := by
  rcases limit with _ | _ | k
  · rfl
  · exact absurd rfl hlimit
  · rfl

/-- What stands before the first occurrence is kept. -/
theorem replaceFrom_append (hlimit : limit ≠ some 0)
    (hfirst : ∀ i, OccursAt old (p ++ rest) i → p.length ≤ i) :
    replaceFrom old new 0 limit (p ++ rest) = p ++ replaceFrom old new 0 limit rest := by
  induction p with
  | nil => rfl
  | cons c p ih =>
    have hnone : ¬ old.isPrefixOf (c :: (p ++ rest)) := fun hprefix =>
      absurd (hfirst 0 (occursAt_zero_iff.2 (List.isPrefixOf_iff_prefix.1 hprefix)))
        (Nat.not_succ_le_zero _)
    rw [List.cons_append, replaceFrom_cons hlimit, if_neg hnone,
      ih fun i hi => Nat.le_of_succ_le_succ (hfirst (i + 1) (occursAt_succ_iff.2 hi)),
      List.cons_append]

/-- An occurrence is replaced, and the search goes on after it. -/
theorem replaceFrom_occurrence (hold : old ≠ []) (hlimit : limit ≠ some 0) :
    replaceFrom old new 0 limit (old ++ rest) =
      new ++ replaceFrom old new 0 (limit.map (· - 1)) rest := by
  cases old with
  | nil => exact absurd rfl hold
  | cons c cs =>
    have hprefix : (c :: cs).isPrefixOf (c :: (cs ++ rest)) = true :=
      List.isPrefixOf_iff_prefix.2 (List.prefix_append (c :: cs) rest)
    have hskip : (cs ++ rest).drop ((c :: cs).length - 1) = rest := List.drop_left
    rw [List.cons_append, replaceFrom_cons hlimit, if_pos hprefix, replaceFrom_skip, hskip]

/-- A replacement fills the first gaps, as many as its limit, or all of them without one. -/
theorem Splits.replaceFrom_eq (h : Splits old cs parts) (hold : old ≠ []) (limit : Option Nat) :
    replaceFrom old new 0 limit cs = filled old new (limit.getD (parts.length - 1)) parts := by
  induction h generalizing limit with
  | @last cs hnone =>
    rcases eq_or_ne limit (some 0) with rfl | hlimit
    · exact replaceFrom_zero ..
    · have hkept : replaceFrom old new 0 limit (cs ++ []) =
          cs ++ replaceFrom old new 0 limit [] :=
        replaceFrom_append hlimit fun i hi => absurd (List.append_nil cs ▸ hi) (hnone i)
      rw [List.append_nil, replaceFrom, List.append_nil] at hkept
      exact hkept
  | @cut p rest ps hfirst hrest ih =>
    -- An occurrence that is replaced takes one gap and one of the limit.
    rcases eq_or_ne limit (some 0) with rfl | hlimit
    · exact (replaceFrom_zero ..).trans (Splits.cut hfirst hrest).filled_zero.symm
    · have hlength := List.length_pos_iff.2 hrest.ne_nil
      have hcount : limit.getD ((p :: ps).length - 1) =
          (limit.map (· - 1)).getD (ps.length - 1) + 1 := by
        rcases limit with _ | _ | k
        · exact (Nat.sub_add_cancel hlength).symm
        · exact absurd rfl hlimit
        · rfl
      rw [replaceFrom_append hlimit hfirst, replaceFrom_occurrence hold hlimit, ih, hcount,
        filled_succ_cons hrest.ne_nil]

end RecordCalc.Text
