import Mathlib.Data.List.Induction
import RecordCalc.Proofs.Cache

/-
  Caches as lists in order of use. The keys that a cache holds are those of a list on which a put,
  or a get that finds its key, moves the key to the end; when a new key finds no room the first one
  goes (`recency`). Each has the value of its last put, and the counters balance what was asked for
  and what was added since the last clearing (`follows_recency`). Keys need not be lawful: it is
  enough that being the same key is symmetric and transitive. Of keys that are the same, the list
  and the cache keep the one that came first.
-/

namespace RecordCalc.Cache

/-- What is done with a cache. -/
inductive Move (κ α : Type)
  | get (key : κ)
  | put (key : κ) (value : α)
  | contains (key : κ)
  | clear

namespace Move

variable {κ α : Type}

def isClear : Move κ α → Bool
  | clear => true
  | _ => false

def isGet : Move κ α → Bool
  | get _ => true
  | _ => false

/-- The value that a move puts under a key. -/
def putUnder? [BEq κ] (key : κ) : Move κ α → Option α
  | put k value => if k == key then some value else none
  | _ => none

end Move

variable {κ α : Type} [BEq κ]

/-- The cache after a move. -/
def afterMove (c : Cache κ α) : Move κ α → Cache κ α
  | .get key => (c.get key).2
  | .put key value => (c.put key value).2
  | .contains _ => c
  | .clear => c.clear

/-- The cache after some moves. -/
def afterAll (c : Cache κ α) (moves : List (Move κ α)) : Cache κ α := moves.foldl afterMove c

/-! ## The list of keys -/

/-- Whether a key is on a list. -/
def isListed (keys : List κ) (key : κ) : Bool := keys.any (· == key)

/-- A list of keys with the one that is the same as the given one at the end. -/
def toEnd (keys : List κ) (key : κ) : List κ :=
  keys.filter (!· == key) ++ (keys.find? (· == key)).toList

/-- The list of keys after a move. -/
def recencyStep (capacity : Nat) (keys : List κ) : Move κ α → List κ
  | .get key => if isListed keys key then toEnd keys key else keys
  | .put key _ =>
    if isListed keys key then toEnd keys key
    else if keys.length < capacity then keys ++ [key]
    else keys.tail ++ [key]
  | .contains _ => keys
  | .clear => []

/-- The keys in the order of their last use, after some moves from no keys. -/
def recency (capacity : Nat) (moves : List (Move κ α)) : List κ :=
  moves.foldl (recencyStep capacity) []

/-- The value of the last put of a key. -/
def lastPut? (moves : List (Move κ α)) (key : κ) : Option α :=
  moves.reverse.findSome? (·.putUnder? key)

/-- The moves since the last clearing. -/
def sinceClear (moves : List (Move κ α)) : List (Move κ α) :=
  (moves.reverse.takeWhile (!·.isClear)).reverse

/-- Whether a move puts a key that is not on a list. -/
def addsKey (keys : List κ) : Move κ α → Bool
  | .put key _ => !isListed keys key
  | _ => false

/-- How many of some moves put a key that is not on the list at that moment. -/
def countAdded (capacity : Nat) (keys : List κ) : List (Move κ α) → Nat
  | [] => 0
  | m :: moves =>
    (addsKey keys m).toNat + countAdded capacity (recencyStep capacity keys m) moves

section
variable {capacity : Nat} {keys : List κ} {moves : List (Move κ α)} {m : Move κ α} {key : κ}

theorem afterAll_snoc (c : Cache κ α) (moves : List (Move κ α)) (m : Move κ α) :
    c.afterAll (moves ++ [m]) = (c.afterAll moves).afterMove m := by
  rw [afterAll, List.foldl_append]
  rfl

theorem recency_snoc (capacity : Nat) (moves : List (Move κ α)) (m : Move κ α) :
    recency capacity (moves ++ [m]) = recencyStep capacity (recency capacity moves) m := by
  rw [recency, List.foldl_append]
  rfl

theorem lastPut?_snoc (moves : List (Move κ α)) (m : Move κ α) (key : κ) :
    lastPut? (moves ++ [m]) key = (m.putUnder? key).or (lastPut? moves key) := by
  rw [lastPut?, List.reverse_concat, List.findSome?_cons]
  cases m.putUnder? key <;> rfl

omit [BEq κ] in
theorem sinceClear_snoc (moves : List (Move κ α)) (m : Move κ α) :
    sinceClear (moves ++ [m]) = if m.isClear then [] else sinceClear moves ++ [m] := by
  rw [sinceClear, List.reverse_concat, List.takeWhile_cons]
  cases m.isClear <;> simp [sinceClear]

theorem countAdded_snoc (keys : List κ) (moves : List (Move κ α)) (m : Move κ α) :
    countAdded capacity keys (moves ++ [m]) = countAdded capacity keys moves +
      (addsKey (moves.foldl (recencyStep capacity) keys) m).toNat := by
  induction moves generalizing keys with
  | nil => simp [countAdded]
  | cons m' moves ih =>
    rw [List.cons_append, countAdded, countAdded, ih, List.foldl_cons, Nat.add_assoc]

/-- A clearing leaves nothing to the moves behind it. -/
theorem recency_sinceClear (capacity : Nat) (moves : List (Move κ α)) :
    recency capacity (sinceClear moves) = recency capacity moves := by
  induction moves using List.reverseRecOn with
  | nil => rfl
  | append_singleton moves m ih =>
    rw [sinceClear_snoc, recency_snoc]
    cases hm : m.isClear with
    | true =>
      cases m <;> cases hm
      rfl
    | false =>
      rw [if_neg Bool.false_ne_true, recency_snoc, ih]

theorem filter_of_not_isListed (h : isListed keys key = false) :
    keys.filter (!· == key) = keys := by
  refine List.filter_eq_self.2 fun k hk => ?_
  have hne : (k == key) = false := by simpa using List.any_eq_false.1 h k hk
  rw [hne]
  rfl

end

/-! ## Keys are listed once -/

/-- No key is on the list twice. -/
def Distinct (keys : List κ) : Prop := keys.Pairwise fun k k' => (k == k') = false

section
variable {capacity : Nat} {keys : List κ} {moves : List (Move κ α)} {m : Move κ α} {key : κ}

theorem distinct_concat (h : Distinct keys) (hkey : isListed keys key = false) :
    Distinct (keys ++ [key]) := by
  refine List.pairwise_append.2 ⟨h, List.pairwise_singleton _ _, fun k hk k' hk' => ?_⟩
  rw [List.mem_singleton.1 hk']
  simpa using List.any_eq_false.1 hkey k hk

theorem isListed_tail (h : isListed keys key = false) : isListed keys.tail key = false :=
  List.any_eq_false.2 fun k hk => List.any_eq_false.1 h k (List.mem_of_mem_tail hk)

variable [PartialEquivBEq κ]

theorem distinct_toEnd (h : Distinct keys) (key : κ) : Distinct (toEnd keys key) := by
  refine List.pairwise_append.2 ⟨h.filter _, ?_, fun k hk k' hk' => ?_⟩
  · cases keys.find? (· == key) with
    | none => exact List.Pairwise.nil
    | some k => exact List.pairwise_singleton _ k
  · have hother : (k == key) = false := by simpa using (List.mem_filter.1 hk).2
    have hsame : (k' == key) = true := by simpa using List.find?_some (Option.mem_toList.1 hk')
    exact (BEq.congr_right hsame).trans hother

theorem distinct_recencyStep (h : Distinct keys) (capacity : Nat) (m : Move κ α) :
    Distinct (recencyStep capacity keys m) := by
  cases m with
  | get key =>
    rw [recencyStep]
    split
    · exact distinct_toEnd h key
    · exact h
  | put key value =>
    rw [recencyStep]
    cases hkey : isListed keys key with
    | true => exact distinct_toEnd h key
    | false =>
      rw [if_neg Bool.false_ne_true]
      split
      · exact distinct_concat h hkey
      · exact distinct_concat (h.sublist (List.tail_sublist keys)) (isListed_tail hkey)
  | contains key => exact h
  | clear => exact List.Pairwise.nil

theorem distinct_recency (capacity : Nat) (moves : List (Move κ α)) :
    Distinct (recency capacity moves) := by
  induction moves using List.reverseRecOn with
  | nil => exact List.Pairwise.nil
  | append_singleton moves m ih =>
    rw [recency_snoc]
    exact distinct_recencyStep ih capacity m

/-- The keys that are the same as one of them are that one alone. -/
theorem length_filter_other (h : Distinct keys) (hkey : isListed keys key = true) :
    (keys.filter (!· == key)).length + 1 = keys.length := by
  induction keys with
  | nil => cases hkey
  | cons k keys ih =>
    obtain ⟨hk, hkeys⟩ := List.pairwise_cons.1 h
    cases hsame : k == key with
    | true =>
      have hrest : isListed keys key = false := by
        refine List.any_eq_false.2 fun k' hk' hsame' => ?_
        have hkk' := hk k' hk'
        rw [BEq.trans hsame (BEq.symm hsame')] at hkk'
        cases hkk'
      rw [List.filter_cons_of_neg (by simp [hsame]), filter_of_not_isListed hrest,
        List.length_cons]
    | false =>
      have hrest : isListed keys key = true := by simpa [isListed, hsame] using hkey
      rw [List.filter_cons_of_pos (by simp [hsame]), List.length_cons, List.length_cons,
        ih hkeys hrest]

theorem length_toEnd (h : Distinct keys) (hkey : isListed keys key = true) :
    (toEnd keys key).length = keys.length := by
  have hfound : (keys.find? (· == key)).isSome = true := by rwa [List.isSome_find?]
  obtain ⟨k, hk⟩ := Option.isSome_iff_exists.1 hfound
  rw [toEnd, hk, List.length_append]
  exact length_filter_other h hkey

end

/-! ## One move -/

/-- The keys of the entries. -/
def keys (c : Cache κ α) : List κ := c.entries.map (·.1)

section
variable {c : Cache κ α} {key : κ} {value : α} {e : κ × α} {m : Move κ α}

omit [BEq κ] in
theorem length_keys (c : Cache κ α) : c.keys.length = c.size := List.length_map _

theorem find?_keys (c : Cache κ α) (key : κ) :
    c.keys.find? (· == key) = (c.find? key).map (·.1) := List.find?_map ..

theorem isSome_find? (c : Cache κ α) (key : κ) : (c.find? key).isSome = c.contains key := by
  rw [contains, peek?, Option.isSome_map]

theorem contains_eq (c : Cache κ α) (key : κ) : c.contains key = isListed c.keys key := by
  rw [← isSome_find?, isListed, ← List.isSome_find?, find?_keys, Option.isSome_map]

theorem contains_of_find? (h : c.find? key = some e) : c.contains key = true := by
  rw [← isSome_find?, h]
  rfl

theorem exists_find? (h : c.contains key = true) : ∃ e, c.find? key = some e :=
  Option.isSome_iff_exists.1 ((isSome_find? c key).trans h)

theorem find?_of_not_contains (h : c.contains key = false) : c.find? key = none :=
  Option.isNone_iff_eq_none.1 (Option.isSome_eq_false_iff.1 ((isSome_find? c key).trans h))

theorem keys_without (c : Cache κ α) (key : κ) :
    (c.without key).map (·.1) = c.keys.filter (!· == key) := by
  rw [keys, List.filter_map]
  rfl

theorem without_of_not_contains (h : c.contains key = false) : c.without key = c.entries := by
  rw [contains_eq] at h
  refine List.filter_eq_self.2 fun e he => ?_
  simpa using List.any_eq_false.1 h e.1 (List.mem_map_of_mem he)

theorem get_of_find? (h : c.find? key = some e) : (c.get key).2 =
    { c with entries := c.without key ++ [e], hits := c.hits + 1 } := by
  rw [get, h]

theorem get_of_not_contains (h : c.contains key = false) :
    (c.get key).2 = { c with misses := c.misses + 1 } := by
  rw [get, find?_of_not_contains h]

theorem storedKey_of_find? (h : c.find? key = some e) : c.storedKey key = e.1 := by
  rw [storedKey, h]
  rfl

theorem storedKey_of_not_contains (h : c.contains key = false) : c.storedKey key = key := by
  rw [storedKey, find?_of_not_contains h]
  rfl

theorem put_of_room (hkey : c.contains key = false) (hroom : c.size < c.capacity) :
    (c.put key value).2 = { c with entries := c.entries ++ [(key, value)] } := by
  have hlength : ¬ c.capacity < (c.entries ++ [(key, value)]).length := by
    rw [List.length_append]
    exact Nat.not_lt.2 hroom
  rw [put, without_of_not_contains hkey, storedKey_of_not_contains hkey]
  exact congrArg Prod.snd (if_neg hlength)

/-- A new key in a cache that is full takes the room of the first one. -/
theorem put_of_full (hkey : c.contains key = false) (hfull : c.capacity ≤ c.size) :
    (c.put key value).2 = { c with
      entries := c.entries.tail ++ [(key, value)], evictions := c.evictions + 1 } := by
  have hlength : c.capacity < (c.entries ++ [(key, value)]).length := by
    rw [List.length_append]
    exact Nat.lt_succ_of_le hfull
  have hne : c.entries ≠ [] := List.ne_nil_of_length_pos (Nat.lt_of_lt_of_le c.capacity_pos hfull)
  rw [put, without_of_not_contains hkey, storedKey_of_not_contains hkey,
    ← List.tail_append_of_ne_nil hne]
  exact congrArg Prod.snd (if_pos hlength)

/-- A cache that is within its capacity and lists no key twice. -/
structure Tidy (c : Cache κ α) : Prop where
  distinct : Distinct c.keys
  bound : c.size ≤ c.capacity

variable [PartialEquivBEq κ]

/-- A key that is there keeps its room. -/
theorem length_moved (h : c.Tidy) (hkey : c.contains key = true) (e : κ × α) :
    (c.without key ++ [e]).length = c.size := by
  rw [contains_eq] at hkey
  have hkeys := length_filter_other h.distinct hkey
  rw [length_keys, ← keys_without, List.length_map] at hkeys
  rw [List.length_append]
  exact hkeys

theorem put_of_find? (h : c.Tidy) (hentry : c.find? key = some e) :
    (c.put key value).2 = { c with entries := c.without key ++ [(e.1, value)] } := by
  have hroom : ¬ c.capacity < (c.without key ++ [(e.1, value)]).length := by
    rw [length_moved h (contains_of_find? hentry)]
    exact Nat.not_lt.2 h.bound
  rw [put, storedKey_of_find? hentry]
  exact congrArg Prod.snd (if_neg hroom)

/-- What is the same as the stored key is the same as the key of the put. -/
theorem beq_of_storedKey {key' : κ} (h : (c.storedKey key == key') = true) :
    (key == key') = true := by
  cases hkey : c.contains key with
  | false => rwa [storedKey_of_not_contains hkey] at h
  | true =>
    obtain ⟨e, hentry⟩ := exists_find? hkey
    rw [storedKey_of_find? hentry] at h
    exact BEq.trans (BEq.symm (beq_of_find? hentry)) h

omit [PartialEquivBEq κ] in
/-- The keys with the one that is stored at the end. -/
theorem toEnd_keys (hentry : c.find? key = some e) (value : α) :
    (c.without key ++ [(e.1, value)]).map (·.1) = toEnd c.keys key := by
  rw [List.map_append, keys_without, toEnd, find?_keys, hentry]
  rfl

/-- What a move does to the keys it does to their list. -/
theorem keys_afterMove (h : c.Tidy) (m : Move κ α) :
    (c.afterMove m).keys = recencyStep c.capacity c.keys m := by
  cases m with
  | get key =>
    rw [recencyStep, ← contains_eq, afterMove]
    cases hkey : c.contains key with
    | false =>
      rw [get_of_not_contains hkey]
      rfl
    | true =>
      obtain ⟨e, hentry⟩ := exists_find? hkey
      rw [get_of_find? hentry]
      exact toEnd_keys hentry e.2
  | put key value =>
    rw [recencyStep, ← contains_eq, afterMove]
    cases hkey : c.contains key with
    | true =>
      obtain ⟨e, hentry⟩ := exists_find? hkey
      rw [put_of_find? h hentry]
      exact toEnd_keys hentry value
    | false =>
      rw [if_neg Bool.false_ne_true, length_keys]
      by_cases hroom : c.size < c.capacity
      · rw [if_pos hroom, put_of_room hkey hroom, keys, List.map_append]
        rfl
      · rw [if_neg hroom, put_of_full hkey (Nat.not_lt.1 hroom), keys, List.map_append,
          List.map_tail]
        rfl
  | contains key => rfl
  | clear => rfl

omit [PartialEquivBEq κ] in
theorem capacity_afterMove (c : Cache κ α) (m : Move κ α) :
    (c.afterMove m).capacity = c.capacity := by
  cases m with
  | get key =>
    rw [afterMove, get]
    split <;> rfl
  | put key value =>
    rw [afterMove, put]
    split <;> rfl
  | contains key => rfl
  | clear => rfl

theorem length_recencyStep {capacity : Nat} {keys : List κ} (hkeys : Distinct keys)
    (hpos : 0 < capacity) (h : keys.length ≤ capacity) (m : Move κ α) :
    (recencyStep capacity keys m).length ≤ capacity := by
  cases m with
  | get key =>
    rw [recencyStep]
    split
    next hkey => rwa [length_toEnd hkeys hkey]
    · exact h
  | put key value =>
    rw [recencyStep]
    split
    next hkey => rwa [length_toEnd hkeys hkey]
    · split
      · rwa [List.length_append, List.length_singleton]
      · rw [List.length_append, List.length_tail, List.length_singleton]
        omega
  | contains key => exact h
  | clear => exact Nat.zero_le _

theorem Tidy.afterMove (h : c.Tidy) (m : Move κ α) : (c.afterMove m).Tidy where
  distinct := by
    rw [keys_afterMove h]
    exact distinct_recencyStep h.distinct _ m
  bound := by
    rw [← length_keys, keys_afterMove h, capacity_afterMove]
    exact length_recencyStep h.distinct c.capacity_pos (length_keys c ▸ h.bound) m

omit [PartialEquivBEq κ] in
/-- A get is a hit or a miss, and nothing else is. -/
theorem asked_afterMove (c : Cache κ α) (m : Move κ α) :
    (c.afterMove m).hits + (c.afterMove m).misses =
      if m.isClear then 0 else c.hits + c.misses + m.isGet.toNat := by
  cases m with
  | get key =>
    rw [afterMove, get]
    split
    · exact Nat.add_right_comm ..
    · rfl
  | put key value =>
    rw [afterMove, put]
    split <;> rfl
  | contains key => rfl
  | clear => rfl

/-- A new key is an entry more or makes an eviction, and nothing else does. -/
theorem added_afterMove (h : c.Tidy) (m : Move κ α) :
    (c.afterMove m).size + (c.afterMove m).evictions =
      if m.isClear then 0 else c.size + c.evictions + (addsKey c.keys m).toNat := by
  cases m with
  | get key =>
    rw [afterMove]
    cases hkey : c.contains key with
    | false =>
      rw [get_of_not_contains hkey]
      rfl
    | true =>
      obtain ⟨e, hentry⟩ := exists_find? hkey
      rw [get_of_find? hentry, size, length_moved h hkey]
      rfl
  | put key value =>
    rw [afterMove, addsKey, ← contains_eq]
    cases hkey : c.contains key with
    | true =>
      obtain ⟨e, hentry⟩ := exists_find? hkey
      rw [put_of_find? h hentry, size, length_moved h hkey]
      rfl
    | false =>
      by_cases hroom : c.size < c.capacity
      · rw [put_of_room hkey hroom, size, List.length_append]
        exact Nat.add_right_comm ..
      · have hpos : 0 < c.entries.length := Nat.lt_of_lt_of_le c.capacity_pos (Nat.not_lt.1 hroom)
        rw [put_of_full hkey (Nat.not_lt.1 hroom), size, List.length_append, List.length_tail,
          List.length_singleton, Nat.sub_add_cancel hpos]
        rfl
  | contains key => rfl
  | clear => rfl

end

/-! ## All the moves -/

/-- What a cache is after some moves from the empty one. -/
structure Follows (moves : List (Move κ α)) (c : Cache κ α) : Prop where
  keys : c.keys = recency c.capacity moves
  values : ∀ e ∈ c.entries, ∀ key, (e.1 == key) = true → lastPut? moves key = some e.2
  bound : c.size ≤ c.capacity
  asked : c.hits + c.misses = (sinceClear moves).countP Move.isGet
  added : c.size + c.evictions = countAdded c.capacity [] (sinceClear moves)

section
variable [PartialEquivBEq κ] {c : Cache κ α} {moves : List (Move κ α)}

theorem Follows.tidy (h : Follows moves c) : c.Tidy where
  distinct := by
    rw [h.keys]
    exact distinct_recency _ moves
  bound := h.bound

/-- An entry that a move leaves is the one it puts, or stood under the same key. -/
theorem values_afterMove (h : Follows moves c) (m : Move κ α) :
    ∀ e ∈ (c.afterMove m).entries, ∀ key, (e.1 == key) = true →
      lastPut? (moves ++ [m]) key = some e.2 := by
  intro e he key hkey
  rw [lastPut?_snoc]
  cases m with
  | get key' => exact h.values e (mem_of_mem_get he) key hkey
  | put key' value =>
    rcases mem_put he with ⟨hmem, hne⟩ | rfl
    · have hother : ¬ (key' == key) = true := fun hsame => by
        rw [BEq.trans hkey (BEq.symm hsame)] at hne
        cases hne
      rw [Move.putUnder?, if_neg hother, Option.none_or]
      exact h.values e hmem key hkey
    · rw [Move.putUnder?, if_pos (beq_of_storedKey hkey), Option.some_or]
  | contains key' => exact h.values e he key hkey
  | clear => cases he

theorem Follows.snoc (h : Follows moves c) (m : Move κ α) :
    Follows (moves ++ [m]) (c.afterMove m) where
  keys := by rw [keys_afterMove h.tidy, capacity_afterMove, recency_snoc, h.keys]
  values := values_afterMove h m
  bound := (h.tidy.afterMove m).bound
  asked := by
    rw [asked_afterMove, sinceClear_snoc]
    cases m.isClear
    · rw [if_neg Bool.false_ne_true, if_neg Bool.false_ne_true, List.countP_append, h.asked]
      rw [List.countP_singleton]
      cases m.isGet <;> rfl
    · rfl
  added := by
    rw [added_afterMove h.tidy, sinceClear_snoc, capacity_afterMove]
    cases m.isClear
    · rw [if_neg Bool.false_ne_true, if_neg Bool.false_ne_true, countAdded_snoc, h.added, h.keys,
        ← recency_sinceClear]
      rfl
    · rfl

theorem Follows.all (h : Follows [] c) (moves : List (Move κ α)) :
    Follows moves (c.afterAll moves) := by
  induction moves using List.reverseRecOn with
  | nil => exact h
  | append_singleton moves m ih =>
    rw [afterAll_snoc]
    exact ih.snoc m

omit [PartialEquivBEq κ] in
theorem ofCapacity_follows {capacity : Int} (h : 1 ≤ capacity) :
    ∃ c : Cache κ α, ofCapacity capacity = .ok c ∧ c.capacity = capacity.toNat ∧ Follows [] c :=
  ⟨⟨capacity.toNat, by omega, [], 0, 0, 0⟩, dif_pos h, rfl, {
    keys := rfl
    values := fun e he => by cases he
    bound := Nat.zero_le _
    asked := rfl
    added := rfl }⟩

omit [PartialEquivBEq κ] in
theorem capacity_afterAll (c : Cache κ α) (moves : List (Move κ α)) :
    (c.afterAll moves).capacity = c.capacity := by
  induction moves using List.reverseRecOn with
  | nil => rfl
  | append_singleton moves m ih => rw [afterAll_snoc, capacity_afterMove, ih]

omit [PartialEquivBEq κ] in
/-- What a key gives is the value of its last put, while the key is listed. -/
theorem Follows.get_fst (h : Follows moves c) (key : κ) :
    (c.get key).1 =
      if isListed (recency c.capacity moves) key then lastPut? moves key else none := by
  rw [Cache.get_fst, ← h.keys, ← contains_eq]
  cases hkey : c.contains key with
  | false =>
    rw [if_neg Bool.false_ne_true, peek?, find?_of_not_contains hkey]
    rfl
  | true =>
    obtain ⟨e, hentry⟩ := exists_find? hkey
    have hlast := h.values e (mem_of_find? hentry) key (beq_of_find? hentry)
    rw [if_pos rfl, peek?, hentry, hlast]
    rfl

/--
After any moves the keys of a cache are those of the list in order of use, each with the value of
its last put; there are never more than the capacity; hits and misses are the gets since the last
clearing, and entries and evictions are the puts since then of keys that were not stored.
-/
theorem follows_recency {capacity : Int} (h : 1 ≤ capacity) :
    ∃ c₀ : Cache κ α, ofCapacity capacity = .ok c₀ ∧ ∀ moves,
      let c := c₀.afterAll moves
      let keys := recency capacity.toNat moves
      c.entries.map (·.1) = keys ∧
      (∀ e ∈ c.entries, ∀ key, (e.1 == key) = true → lastPut? moves key = some e.2) ∧
      (∀ key, c.contains key = isListed keys key) ∧
      (∀ key, (c.get key).1 = if isListed keys key then lastPut? moves key else none) ∧
      (c.size : Int) ≤ capacity ∧
      c.hits + c.misses = (sinceClear moves).countP Move.isGet ∧
      c.size + c.evictions = countAdded capacity.toNat [] (sinceClear moves) := by
  obtain ⟨c₀, hc₀, hcapacity, hempty⟩ := ofCapacity_follows (κ := κ) (α := α) h
  refine ⟨c₀, hc₀, fun moves => ?_⟩
  have hall := hempty.all moves
  have hbound := hall.bound
  rw [capacity_afterAll, hcapacity] at hbound
  rw [← hcapacity, ← capacity_afterAll c₀ moves]
  refine ⟨hall.keys, hall.values, fun key => ?_, hall.get_fst, by omega, hall.asked, hall.added⟩
  rw [contains_eq, hall.keys]

end

/-- With room for two, the key that was read stays and the other one goes. -/
theorem follows_recency_full :
    (1 : Int) ≤ 2 ∧ ∃ c₀ : Cache String Nat, ofCapacity 2 = .ok c₀ ∧
      let c := c₀.afterAll [.put "a" 1, .put "b" 2, .get "a", .put "c" 3]
      c.entries.map (·.1) = ["a", "c"] ∧ (c.get "a").1 = some 1 ∧ c.contains "b" = false ∧
        c.hits + c.misses = 1 ∧ c.size + c.evictions = 3 := by
  obtain ⟨c₀, hc₀, hall⟩ := follows_recency (κ := String) (α := Nat) (show (1 : Int) ≤ 2 by decide)
  obtain ⟨hkeys, -, hcontains, hget, -, hasked, hadded⟩ :=
    hall [.put "a" 1, .put "b" 2, .get "a", .put "c" 3]
  exact ⟨by decide, c₀, hc₀, hkeys, hget "a", hcontains "b", hasked, hadded⟩

end RecordCalc.Cache
