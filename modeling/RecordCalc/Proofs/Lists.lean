import Mathlib.Algebra.BigOperators.Group.List.Basic
import Mathlib.Algebra.GroupWithZero.Nat
import Mathlib.Data.List.Forall2
import Mathlib.Data.List.Nodup

/-
  Facts on lists that several parts of the theory share: lists without repeats, searches by a key
  that no two items share, lists whose items belong together one by one, walks along a list that
  stop at an item, and counts of the items by their properties.
-/

namespace RecordCalc.Lists

variable {α : Type}

theorem nodup_eraseDups [BEq α] [LawfulBEq α] (l : List α) : l.eraseDups.Nodup := by
  match l with
  | [] => exact List.nodup_nil
  | a :: l =>
    rw [List.eraseDups_cons, List.nodup_cons, List.mem_eraseDups]
    exact ⟨by simp, nodup_eraseDups _⟩
termination_by l.length
decreasing_by exact Nat.lt_succ_of_le (List.length_filter_le _ _)

/-- Of entries with different keys, a search by key finds the one with that key. -/
theorem find?_key {key : α → String} {l : List α} (h : (l.map key).Nodup) {a : α}
    (ha : a ∈ l) : l.find? (key · == key a) = some a := by
  induction l with
  | nil => cases ha
  | cons b l ih =>
    obtain ⟨hb, hl⟩ := List.nodup_cons.1 h
    rcases List.mem_cons.1 ha with rfl | ha
    · simp
    · have hne : ¬ key b = key a := fun he => hb (he ▸ List.mem_map_of_mem ha)
      rw [List.find?_cons_of_neg (by simpa using hne)]
      exact ih hl ha

/-- Entries with different keys are known by their keys. -/
theorem eq_of_key {key : α → String} {l : List α} (h : (l.map key).Nodup) {a b : α}
    (ha : a ∈ l) (hb : b ∈ l) (hkey : key a = key b) : a = b := by
  have hfind := find?_key h ha
  rw [hkey, find?_key h hb] at hfind
  exact (Option.some.inj hfind).symm

/-- Of two lists whose items belong together, what is in the first belongs to something in the
second. -/
theorem exists_of_mem {β : Type} {R : α → β → Prop} {l : List α} {l' : List β}
    (h : List.Forall₂ R l l') {a : α} (ha : a ∈ l) : ∃ b ∈ l', R a b := by
  induction h with
  | nil => cases ha
  | cons hb hrest ih =>
    rcases List.mem_cons.1 ha with rfl | ha
    · exact ⟨_, List.mem_cons_self, hb⟩
    · obtain ⟨b, hb, hR⟩ := ih ha
      exact ⟨b, List.mem_cons_of_mem _ hb, hR⟩

/-- What stands before the first of an item and behind it is settled by the list. -/
theorem eq_of_append_cons {a : α} {l l' rest rest' : List α} (hl : a ∉ l) (hl' : a ∉ l')
    (h : l ++ a :: rest = l' ++ a :: rest') : l = l' ∧ rest = rest' := by
  induction l generalizing l' with
  | nil =>
    cases l' with
    | nil => exact ⟨rfl, (List.cons.inj h).2⟩
    | cons b l' =>
      obtain ⟨rfl, -⟩ := List.cons.inj h
      exact absurd List.mem_cons_self hl'
  | cons b l ih =>
    cases l' with
    | nil =>
      obtain ⟨rfl, -⟩ := List.cons.inj h
      exact absurd List.mem_cons_self hl
    | cons b' l' =>
      obtain ⟨rfl, htail⟩ := List.cons.inj h
      obtain ⟨rfl, hrest⟩ := ih (List.not_mem_of_not_mem_cons hl)
        (List.not_mem_of_not_mem_cons hl') htail
      exact ⟨rfl, hrest⟩

/-- What holds of a list when it stops at the first item, or goes past it and holds of the rest,
holds of the lists with an item to stop at and only items to go past before it. -/
theorem exists_first_iff (P : List α → Prop) {stop go : α → Prop} (hnil : ¬ P [])
    (hcons : ∀ a l, P (a :: l) ↔ stop a ∨ go a ∧ P l) (l : List α) :
    P l ↔ ∃ before a after, l = before ++ a :: after ∧ (∀ b ∈ before, go b) ∧ stop a := by
  induction l with
  | nil => exact iff_of_false hnil (by simp)
  | cons a l ih =>
    rw [hcons, ih]
    constructor
    · rintro (hstop | ⟨hgo, before, b, after, rfl, hbefore, hstop⟩)
      · exact ⟨[], a, l, rfl, by simp, hstop⟩
      · exact ⟨a :: before, b, after, rfl, List.forall_mem_cons.2 ⟨hgo, hbefore⟩, hstop⟩
    · rintro ⟨before, b, after, hsplit, hbefore, hstop⟩
      cases before with
      | nil =>
        obtain ⟨rfl, rfl⟩ := List.cons.inj hsplit
        exact .inl hstop
      | cons c before =>
        obtain ⟨rfl, rfl⟩ := List.cons.inj hsplit
        obtain ⟨hgo, hbefore⟩ := List.forall_mem_cons.1 hbefore
        exact .inr ⟨hgo, before, b, after, rfl, hbefore, hstop⟩

/-- Where no item has a property, all that is taken from them has it only if nothing is taken. -/
theorem filter_eq_nil_of_all {p q : α → Bool} {l : List α} (h : ∀ a ∈ l, q a = false)
    (hall : (l.filter p).all q = true) : l.filter p = [] := by
  refine List.eq_nil_iff_forall_not_mem.2 fun a ha => ?_
  have hq := List.all_eq_true.1 hall a ha
  rw [h a (List.mem_of_mem_filter ha)] at hq
  cases hq

theorem sum_indicators (ps : List (α → Bool)) (a : α) :
    (ps.map fun p => if p a then 1 else 0).sum = ps.countP (· a) := by
  induction ps with
  | nil => rfl
  | cons p ps ih => rw [List.map_cons, List.sum_cons, ih, List.countP_cons, Nat.add_comm]

/-- Where each item has just one of some properties, counting by the properties counts the items. -/
theorem sum_countP (ps : List (α → Bool)) (l : List α) (h : ∀ a ∈ l, ps.countP (· a) = 1) :
    (ps.map fun p => l.countP p).sum = l.length := by
  induction l with
  | nil => simp
  | cons a l ih =>
    obtain ⟨ha, hl⟩ := List.forall_mem_cons.1 h
    simp only [List.countP_cons]
    rw [List.sum_map_add, ih hl, sum_indicators, ha, List.length_cons]

end RecordCalc.Lists
