import RecordCalc.Cache

/-
  What bounded caches hold. A search finds what stands under a key, and using or adding an entry
  brings in nothing but the entry that was added, under the key that was stored first.
-/

namespace RecordCalc.Cache

variable {κ α : Type} [BEq κ] {c : Cache κ α} {key : κ} {value : α} {entry : κ × α}

theorem get_fst (c : Cache κ α) (key : κ) : (c.get key).1 = c.peek? key := by
  unfold get peek?
  cases c.find? key <;> rfl

theorem mem_of_find? (h : c.find? key = some entry) : entry ∈ c.entries :=
  List.mem_of_find?_eq_some h

theorem beq_of_find? (h : c.find? key = some entry) : (entry.1 == key) = true := by
  simpa using List.find?_some h

theorem mem_of_mem_without (h : entry ∈ c.without key) : entry ∈ c.entries :=
  (List.mem_filter.1 h).1

/-- A put leaves the entries under other keys, at most, and adds its own. -/
theorem mem_put (h : entry ∈ (c.put key value).2.entries) :
    (entry ∈ c.entries ∧ (entry.1 == key) = false) ∨ entry = (c.storedKey key, value) := by
  have hmem : entry ∈ c.without key ++ [(c.storedKey key, value)] := by
    rw [put] at h
    split at h
    · exact List.mem_of_mem_tail h
    · exact h
  rw [List.mem_append, without, List.mem_filter, List.mem_singleton] at hmem
  rcases hmem with ⟨he, hne⟩ | heq
  · exact .inl ⟨he, by simpa using hne⟩
  · exact .inr heq

theorem mem_of_mem_get (h : entry ∈ (c.get key).2.entries) : entry ∈ c.entries := by
  unfold get at h
  cases hentry : c.find? key with
  | none =>
    rw [hentry] at h
    exact h
  | some e =>
    rw [hentry] at h
    rcases List.mem_append.1 h with h | h
    · exact mem_of_mem_without h
    · rw [List.mem_singleton.1 h]
      exact mem_of_find? hentry

variable [LawfulBEq κ]

theorem storedKey_eq (c : Cache κ α) (key : κ) : c.storedKey key = key := by
  unfold storedKey
  cases hentry : c.find? key with
  | none => rfl
  | some e => exact eq_of_beq (beq_of_find? hentry)

theorem mem_of_mem_put (h : entry ∈ (c.put key value).2.entries) :
    entry ∈ c.entries ∨ entry = (key, value) := by
  have hput := (mem_put h).imp_left And.left
  rwa [storedKey_eq] at hput

theorem mem_of_peek? (h : c.peek? key = some value) : (key, value) ∈ c.entries := by
  obtain ⟨⟨key', value'⟩, hentry, rfl⟩ := Option.map_eq_some_iff.1 h
  have hkey : key' = key := eq_of_beq (beq_of_find? hentry)
  exact hkey ▸ mem_of_find? hentry

end RecordCalc.Cache
