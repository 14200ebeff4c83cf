/-
  Blank characters: Unicode white space together with the four information separators. Trimming
  drops them from both ends of a text and from nowhere else.
-/
namespace RecordCalc.Text

/-- White space, and the separators U+001C to U+001F. -/
def isBlank (c : Char) : Bool :=
  let n := c.toNat
  (9 ≤ n && n ≤ 13) || (28 ≤ n && n ≤ 32) || n == 0x85 || n == 0xa0 || n == 0x1680 ||
    (0x2000 ≤ n && n ≤ 0x200a) || n == 0x2028 || n == 0x2029 || n == 0x202f || n == 0x205f ||
    n == 0x3000

/-- Drops the blanks in front. -/
def trimStart (cs : List Char) : List Char := cs.dropWhile isBlank

/-- Drops the blanks at the end. -/
def trimEnd (cs : List Char) : List Char := (cs.reverse.dropWhile isBlank).reverse

/-- Drops the blanks at both ends. -/
def trimChars (cs : List Char) : List Char := trimEnd (trimStart cs)

/-- Drops the blanks at both ends of a text. -/
def trim (s : String) : String := String.ofList (trimChars s.toList)

theorem trimStart_of_head {c : Char} {cs : List Char} (h : isBlank c = false) :
    trimStart (c :: cs) = c :: cs := by
  simp [trimStart, h]

theorem dropWhile_blanks {blanks cs : List Char} (h : ∀ c ∈ blanks, isBlank c = true)
    (hcs : ∀ c ∈ cs, isBlank c = false) : (blanks ++ cs).dropWhile isBlank = cs := by
  rw [List.dropWhile_append_of_pos h]
  cases cs with
  | nil => rfl
  | cons c cs => exact trimStart_of_head (hcs c List.mem_cons_self)

/-- Of a text with blanks on both sides and none within, the text is left. -/
theorem trimChars_surrounded {before cs after : List Char} (hbefore : ∀ c ∈ before, isBlank c = true)
    (hafter : ∀ c ∈ after, isBlank c = true) (hcs : ∀ c ∈ cs, isBlank c = false) :
    trimChars (before ++ cs ++ after) = cs := by
  have hreverse : (cs ++ after).reverse.dropWhile isBlank = cs.reverse := by
    rw [List.reverse_append]
    exact dropWhile_blanks (fun c hc => hafter c (List.mem_reverse.1 hc))
      fun c hc => hcs c (List.mem_reverse.1 hc)
  rw [trimChars, trimStart, List.append_assoc, List.dropWhile_append_of_pos hbefore]
  cases cs with
  | nil =>
    have hnone : ([] ++ after).dropWhile isBlank = [] := by
      rw [List.nil_append, ← List.append_nil after]
      exact dropWhile_blanks hafter (by simp)
    rw [hnone]
    rfl
  | cons c cs =>
    have hstart : (c :: (cs ++ after)).dropWhile isBlank = c :: (cs ++ after) :=
      trimStart_of_head (hcs c List.mem_cons_self)
    rw [List.cons_append, hstart, trimEnd, ← List.cons_append, hreverse, List.reverse_reverse]

end RecordCalc.Text
