import Mathlib.Data.List.Forall2
import Mathlib.Data.List.Pairwise
import RecordCalc.Proofs.Cache.Recency
import RecordCalc.Proofs.Lists

/-
  Caches of two sizes on the same moves. What the smaller one holds the larger one holds too, in
  the same order of use: a read that only the larger one can serve moves an entry that the smaller
  one lacks, and by the time the larger one gives an entry up the smaller one has done so
  (`Includes.afterMove`). So every hit of the smaller one is a hit of the larger one
  (`larger_serves_more`). Of keys that are the same each keeps the one that came first to it, so a
  key that has been given up and put again need not be the very one that the larger one keeps.
-/

namespace RecordCalc.Cache

variable {κ α : Type} [BEq κ]

/-! ## What a tidy cache finds -/

/-- An entry is what its key finds, since no other entry has that key. -/
theorem Tidy.find?_of_mem [PartialEquivBEq κ] {c : Cache κ α} (h : c.Tidy) {e : κ × α} {key : κ}
    (he : e ∈ c.entries) (hkey : (e.1 == key) = true) : c.find? key = some e := by
  have hdistinct : c.entries.Pairwise fun e e' => (e.1 == e'.1) = false :=
    List.pairwise_map.1 h.distinct
  have : Std.Symm fun e e' : κ × α => (e.1 == e'.1) = false :=
    ⟨fun e e' hne => by rw [BEq.comm, hne]⟩
  have hfound : c.contains key = true := by
    rw [contains_eq]
    exact List.any_eq_true.2 ⟨e.1, List.mem_map_of_mem he, hkey⟩
  obtain ⟨e', hentry⟩ := exists_find? hfound
  have heq : e' = e := by
    by_contra hne
    have hother := hdistinct.forall (mem_of_find? hentry) he hne
    rw [BEq.trans (beq_of_find? hentry) (BEq.symm hkey)] at hother
    cases hother
  rw [hentry, heq]

/-! ## One cache within another -/

/-- Entries with one value under the same key. -/
def SameEntry (e e' : κ × α) : Prop := (e.1 = e'.1 ∨ (e.1 == e'.1) = true) ∧ e.2 = e'.2

theorem SameEntry.refl (e : κ × α) : SameEntry e e := ⟨.inl rfl, rfl⟩

theorem SameEntry.beq_eq [PartialEquivBEq κ] {e e' : κ × α} (h : SameEntry e e') (key : κ) :
    (e.1 == key) = (e'.1 == key) := by
  rcases h.1 with heq | hsame
  · rw [heq]
  · exact BEq.congr_left hsame

/--
The smaller of two caches on the same moves. While it has room it has given nothing up that the
larger one still holds.
-/
structure Includes (small large : Cache κ α) : Prop where
  entries : List.SublistForall₂ SameEntry small.entries large.entries
  room : small.size < small.capacity → small.entries = large.entries
  hits : small.hits ≤ large.hits

section
variable {xs ys zs : List (κ × α)} {e e' : κ × α}

theorem sublist_filter [PartialEquivBEq κ] (h : List.SublistForall₂ SameEntry xs ys) (key : κ) :
    List.SublistForall₂ SameEntry (xs.filter (!·.1 == key)) (ys.filter (!·.1 == key)) := by
  obtain ⟨kept, hsame, hsub⟩ := List.sublistForall₂_iff.1 h
  refine List.sublistForall₂_iff.2 ⟨kept.filter (!·.1 == key), ?_, hsub.filter _⟩
  exact List.rel_filter (fun e e' he => by simp [he.beq_eq key]) hsame

theorem sublist_concat (h : List.SublistForall₂ SameEntry xs ys) (he : SameEntry e e') :
    List.SublistForall₂ SameEntry (xs ++ [e]) (ys ++ [e']) := by
  obtain ⟨kept, hsame, hsub⟩ := List.sublistForall₂_iff.1 h
  refine List.sublistForall₂_iff.2 ⟨kept ++ [e'], ?_, hsub.append_right _⟩
  exact List.rel_append hsame (.cons he .nil)

theorem sublist_of_sublist (h : List.SublistForall₂ SameEntry xs ys) (hsub : ys.Sublist zs) :
    List.SublistForall₂ SameEntry xs zs := by
  obtain ⟨kept, hsame, hkept⟩ := List.sublistForall₂_iff.1 h
  exact List.sublistForall₂_iff.2 ⟨kept, hsame, hkept.trans hsub⟩

theorem sublist_tail (h : List.SublistForall₂ SameEntry xs ys) :
    List.SublistForall₂ SameEntry xs.tail ys.tail := by
  obtain ⟨kept, hsame, hkept⟩ := List.sublistForall₂_iff.1 h
  exact List.sublistForall₂_iff.2 ⟨kept.tail, by simpa using List.forall₂_drop 1 hsame, hkept.tail⟩

theorem sublist_of_tail (h : List.SublistForall₂ SameEntry xs ys) :
    List.SublistForall₂ SameEntry xs.tail ys :=
  sublist_of_sublist (sublist_tail h) (List.tail_sublist ys)

end

namespace Includes

variable {small large : Cache κ α} {key : κ} {value : α} {e : κ × α}

theorem contains_eq_of_room (h : Includes small large) (hroom : small.size < small.capacity)
    (key : κ) : small.contains key = large.contains key := by
  rw [contains_eq, contains_eq, keys, keys, h.room hroom]

/-- What only the larger one holds had to go from the smaller one, which is full. -/
theorem full_of_contains (h : Includes small large) (hsmall : small.contains key = false)
    (hlarge : large.contains key = true) : small.capacity ≤ small.size := by
  by_contra hroom
  rw [h.contains_eq_of_room (Nat.not_le.1 hroom), hlarge] at hsmall
  cases hsmall

variable [PartialEquivBEq κ]

theorem without (h : Includes small large) (key : κ) :
    List.SublistForall₂ SameEntry (small.without key) (large.without key) :=
  sublist_filter h.entries key

theorem exists_find? (h : Includes small large) (hlarge : large.Tidy)
    (hentry : small.find? key = some e) :
    ∃ e', large.find? key = some e' ∧ SameEntry e e' := by
  obtain ⟨kept, hsame, hkept⟩ := List.sublistForall₂_iff.1 h.entries
  obtain ⟨e', he', hee'⟩ := Lists.exists_of_mem hsame (mem_of_find? hentry)
  refine ⟨e', hlarge.find?_of_mem (hkept.subset he') ?_, hee'⟩
  rw [← hee'.beq_eq, beq_of_find? hentry]

theorem peek?_eq (h : Includes small large) (hlarge : large.Tidy)
    (hvalue : small.peek? key = some value) : large.peek? key = some value := by
  obtain ⟨e, hentry, rfl⟩ := Option.map_eq_some_iff.1 hvalue
  obtain ⟨e', hentry', hee'⟩ := h.exists_find? hlarge hentry
  rw [peek?, hentry', hee'.2]
  rfl

theorem contains_eq_true (h : Includes small large) (hlarge : large.Tidy)
    (hkey : small.contains key = true) : large.contains key = true := by
  obtain ⟨e, hentry⟩ := Cache.exists_find? hkey
  obtain ⟨e', hentry', -⟩ := h.exists_find? hlarge hentry
  exact contains_of_find? hentry'

/-- Entries that replace those of a key, at the end, keep the one cache within the other. -/
theorem moved (h : Includes small large) (hsmall : small.Tidy) {e' x x' : κ × α}
    (hentry : small.find? key = some e) (hentry' : large.find? key = some e')
    (hx : SameEntry x x') (heq : e = e' → x = x') :
    List.SublistForall₂ SameEntry (small.without key ++ [x]) (large.without key ++ [x']) ∧
      ((small.without key ++ [x]).length < small.capacity →
        small.without key ++ [x] = large.without key ++ [x']) := by
  refine ⟨sublist_concat (h.without key) hx, fun hroom => ?_⟩
  rw [length_moved hsmall (contains_of_find? hentry)] at hroom
  have hsame : e = e' := by
    rw [find?, h.room hroom] at hentry
    exact Option.some.inj (hentry.symm.trans hentry')
  rw [Cache.without, Cache.without, h.room hroom, heq hsame]

/-- A read that the smaller one serves is served by the larger one. -/
theorem get (h : Includes small large) (hsmall : small.Tidy) (hlarge : large.Tidy) (key : κ) :
    Includes (small.get key).2 (large.get key).2 := by
  cases hs : small.contains key with
  | true =>
    obtain ⟨e, hentry⟩ := Cache.exists_find? hs
    obtain ⟨e', hentry', hsame⟩ := h.exists_find? hlarge hentry
    obtain ⟨hentries, hroom⟩ := h.moved hsmall hentry hentry' hsame id
    rw [get_of_find? hentry, get_of_find? hentry']
    exact ⟨hentries, hroom, Nat.succ_le_succ h.hits⟩
  | false =>
    rw [get_of_not_contains hs]
    cases hl : large.contains key with
    | true =>
      obtain ⟨e', hentry'⟩ := Cache.exists_find? hl
      have hfull : small.capacity ≤ small.size := h.full_of_contains hs hl
      have hwithout := h.without key
      rw [without_of_not_contains hs] at hwithout
      rw [get_of_find? hentry']
      exact ⟨sublist_of_sublist hwithout (List.sublist_append_left ..),
        fun hroom => absurd hroom (Nat.not_lt.2 hfull), Nat.le_succ_of_le h.hits⟩
    | false =>
      rw [get_of_not_contains hl]
      exact ⟨h.entries, h.room, h.hits⟩

/-- What a full cache keeps of its entries when a new key comes, the larger one keeps too. -/
theorem tail_sublist (h : Includes small large) (hlarge : large.Tidy)
    (hs : small.contains key = false) (value : α) :
    List.SublistForall₂ SameEntry (small.entries.tail ++ [(key, value)])
      (large.put key value).2.entries := by
  cases hl : large.contains key with
  | true =>
    obtain ⟨e', hentry'⟩ := Cache.exists_find? hl
    have hwithout := h.without key
    rw [without_of_not_contains hs] at hwithout
    have hkey : (e'.1 == key) = true := beq_of_find? hentry'
    have hsame : SameEntry (key, value) (e'.1, value) := ⟨.inr (BEq.symm hkey), rfl⟩
    rw [put_of_find? hlarge hentry']
    exact sublist_concat (sublist_of_tail hwithout) hsame
  | false =>
    by_cases hroom : large.size < large.capacity
    · rw [put_of_room hl hroom]
      exact sublist_concat (sublist_of_tail h.entries) (.refl _)
    · rw [put_of_full hl (Nat.not_lt.1 hroom)]
      exact sublist_concat (sublist_tail h.entries) (.refl _)

/-- The larger one gives nothing up before the smaller one does. -/
theorem put (h : Includes small large) (hsmall : small.Tidy) (hlarge : large.Tidy)
    (hcapacity : small.capacity ≤ large.capacity) (key : κ) (value : α) :
    Includes (small.put key value).2 (large.put key value).2 := by
  have hhits : (large.put key value).2.hits = large.hits := by
    rw [Cache.put]
    split <;> rfl
  cases hs : small.contains key with
  | true =>
    obtain ⟨e, hentry⟩ := Cache.exists_find? hs
    obtain ⟨e', hentry', hsame⟩ := h.exists_find? hlarge hentry
    have hput : SameEntry (e.1, value) (e'.1, value) := ⟨hsame.1, rfl⟩
    obtain ⟨hentries, hroom⟩ := h.moved hsmall hentry hentry' hput fun heq => by rw [heq]
    rw [put_of_find? hsmall hentry, put_of_find? hlarge hentry']
    exact ⟨hentries, hroom, h.hits⟩
  | false =>
    by_cases hroom : small.size < small.capacity
    · have hl : large.contains key = false := h.contains_eq_of_room hroom key ▸ hs
      have hroom' : large.size < large.capacity := by
        rw [size, ← h.room hroom]
        exact Nat.lt_of_lt_of_le hroom hcapacity
      rw [put_of_room hs hroom, put_of_room hl hroom']
      exact ⟨sublist_concat h.entries (.refl _),
        fun _ => congrArg (· ++ [(key, value)]) (h.room hroom), h.hits⟩
    · have hfull : small.capacity ≤ small.size := Nat.not_lt.1 hroom
      have hlength : small.capacity ≤ (small.entries.tail ++ [(key, value)]).length := by
        have hpos := small.capacity_pos
        rw [size] at hfull
        rw [List.length_append, List.length_tail, List.length_singleton]
        omega
      rw [put_of_full hs hfull]
      exact ⟨h.tail_sublist hlarge hs value,
        fun hroom => absurd hroom (Nat.not_lt.2 hlength), hhits ▸ h.hits⟩

theorem afterMove (h : Includes small large) (hsmall : small.Tidy) (hlarge : large.Tidy)
    (hcapacity : small.capacity ≤ large.capacity) (m : Move κ α) :
    Includes (small.afterMove m) (large.afterMove m) := by
  cases m with
  | get key => exact h.get hsmall hlarge key
  | put key value => exact h.put hsmall hlarge hcapacity key value
  | contains key => exact h
  | clear => exact ⟨.nil, fun _ => rfl, Nat.le_refl 0⟩

omit [PartialEquivBEq κ] in
theorem of_unused (hsmall : Follows [] small) (hlarge : Follows [] large) :
    Includes small large := by
  have hnone : small.entries = [] := List.map_eq_nil_iff.1 hsmall.keys
  have hnone' : large.entries = [] := List.map_eq_nil_iff.1 hlarge.keys
  have hhits : small.hits + small.misses = 0 := hsmall.asked
  exact ⟨hnone ▸ .nil, fun _ => hnone.trans hnone'.symm, by omega⟩

theorem all (hsmall : Follows [] small) (hlarge : Follows [] large)
    (hcapacity : small.capacity ≤ large.capacity) (moves : List (Move κ α)) :
    Includes (small.afterAll moves) (large.afterAll moves) := by
  induction moves using List.reverseRecOn with
  | nil => exact of_unused hsmall hlarge
  | append_singleton moves m ih =>
    have hcapacity' : (small.afterAll moves).capacity ≤ (large.afterAll moves).capacity := by
      rwa [capacity_afterAll, capacity_afterAll]
    rw [afterAll_snoc, afterAll_snoc]
    exact ih.afterMove (hsmall.all moves).tidy (hlarge.all moves).tidy hcapacity' m

omit [PartialEquivBEq κ] in
/-- Where keys that are the same are equal, so are the entries. -/
theorem sublist (h : Includes small large) (hkeys : ∀ a b : κ, (a == b) = true → a = b) :
    small.entries.Sublist large.entries := by
  obtain ⟨kept, hsame, hkept⟩ := List.sublistForall₂_iff.1 h.entries
  have heq : List.Forall₂ Eq small.entries kept := hsame.imp fun e e' hee' =>
    Prod.ext (hee'.1.elim id (hkeys _ _)) hee'.2
  rw [List.forall₂_eq_eq_eq] at heq
  rwa [heq]

end Includes

/--
On the same moves a cache with more room holds all that one with less room holds, with the same
values, in the same order and under the same keys; it holds these very entries if keys that are the
same are equal. It answers every read that the smaller one answers, and has at least as many hits.
-/
theorem larger_serves_more [PartialEquivBEq κ] {c d : Int} (hc : 1 ≤ c) (hcd : c ≤ d) :
    ∃ small₀ large₀ : Cache κ α, ofCapacity c = .ok small₀ ∧ ofCapacity d = .ok large₀ ∧ ∀ moves,
      let small := small₀.afterAll moves
      let large := large₀.afterAll moves
      List.SublistForall₂ SameEntry small.entries large.entries ∧
      ((∀ a b : κ, (a == b) = true → a = b) → small.entries.Sublist large.entries) ∧
      (∀ key, small.contains key = true → large.contains key = true) ∧
      (∀ key value, (small.get key).1 = some value → (large.get key).1 = some value) ∧
      small.hits ≤ large.hits := by
  obtain ⟨small₀, hsmall₀, hsmallRoom, hsmall⟩ := ofCapacity_follows (κ := κ) (α := α) hc
  obtain ⟨large₀, hlarge₀, hlargeRoom, hlarge⟩ :=
    ofCapacity_follows (κ := κ) (α := α) (Int.le_trans hc hcd)
  have hcapacity : small₀.capacity ≤ large₀.capacity := by
    rw [hsmallRoom, hlargeRoom]
    exact Int.toNat_le_toNat hcd
  refine ⟨small₀, large₀, hsmall₀, hlarge₀, fun moves => ?_⟩
  have hall := Includes.all hsmall hlarge hcapacity moves
  have htidy := (hlarge.all moves).tidy
  refine ⟨hall.entries, hall.sublist, fun key => hall.contains_eq_true htidy,
    fun key value hvalue => ?_, hall.hits⟩
  rw [get_fst] at hvalue ⊢
  exact hall.peek?_eq htidy hvalue

/-- With room for two the key that was put first can still be read. -/
theorem larger_serves_more_read :
    (1 : Int) ≤ 1 ∧ (1 : Int) ≤ 2 ∧ ∃ small₀ large₀ : Cache String Nat,
      ofCapacity 1 = .ok small₀ ∧ ofCapacity 2 = .ok large₀ ∧
      let small := small₀.afterAll [.put "a" 1, .put "b" 2, .get "a"]
      let large := large₀.afterAll [.put "a" 1, .put "b" 2, .get "a"]
      small.entries.Sublist large.entries ∧ small.keys = ["b"] ∧ large.keys = ["b", "a"] ∧
        small.hits ≤ large.hits ∧ small.hits = 0 ∧ large.hits = 1 := by
  obtain ⟨small₀, large₀, hsmall, hlarge, hall⟩ :=
    larger_serves_more (κ := String) (α := Nat) (show (1 : Int) ≤ 1 by decide)
      (show (1 : Int) ≤ 2 by decide)
  obtain ⟨-, hentries, -, -, hhits⟩ := hall [.put "a" 1, .put "b" 2, .get "a"]
  refine ⟨by decide, by decide, small₀, large₀, hsmall, hlarge,
    hentries fun _ _ => eq_of_beq, ?_, ?_, hhits, ?_, ?_⟩
  all_goals cases hsmall; cases hlarge; rfl

end RecordCalc.Cache
