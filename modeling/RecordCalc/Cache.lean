/-
  Bounded caches. Entries stand in the order of their last use; when there is no room for a new key
  the one that was used longest ago goes. Counters tell hits, misses and evictions since the last
  clearing.
-/
import RecordCalc.Fault

namespace RecordCalc

/-- A cache with keys of type `κ` and values of type `α`. -/
structure Cache (κ α : Type) where
  capacity : Nat
  capacity_pos : 0 < capacity
  /-- The entries, the one used longest ago first. -/
  entries : List (κ × α)
  hits : Nat
  misses : Nat
  evictions : Nat

namespace Cache

variable {κ α : Type} [BEq κ]

/-- An empty cache; its capacity is at least 1. -/
def ofCapacity (capacity : Int) : Except Fault (Cache κ α) :=
  if h : 1 ≤ capacity then .ok ⟨capacity.toNat, by omega, [], 0, 0, 0⟩
  else .error (.cacheCapacity capacity)

/-- The entry of a key, which has the key as it was stored. -/
def find? (c : Cache κ α) (key : κ) : Option (κ × α) := c.entries.find? (·.1 == key)

/-- The value of a key, without using it. -/
def peek? (c : Cache κ α) (key : κ) : Option α := (c.find? key).map (·.2)

/-- Whether a key is stored. -/
def contains (c : Cache κ α) (key : κ) : Bool := (c.peek? key).isSome

/-- The number of entries. -/
def size (c : Cache κ α) : Nat := c.entries.length

/-- The entries without a key. -/
def without (c : Cache κ α) (key : κ) : List (κ × α) := c.entries.filter (!·.1 == key)

/-- The value of a key, and the cache after its use. -/
def get (c : Cache κ α) (key : κ) : Option α × Cache κ α :=
  match c.find? key with
  | some e => (some e.2, { c with entries := c.without key ++ [e], hits := c.hits + 1 })
  | none => (none, { c with misses := c.misses + 1 })

/-- The key under which a value is put: the one that is stored, where the same key is. -/
def storedKey (c : Cache κ α) (key : κ) : κ := ((c.find? key).map (·.1)).getD key

/-- The cache with a value under a key, and the key that had to go. -/
def put (c : Cache κ α) (key : κ) (value : α) : Option κ × Cache κ α :=
  let entries := c.without key ++ [(c.storedKey key, value)]
  if c.capacity < entries.length then
    (entries.head?.map (·.1),
      { c with entries := entries.tail, evictions := c.evictions + 1 })
  else (none, { c with entries := entries })

/-- The cache without entries and counts. -/
def clear (c : Cache κ α) : Cache κ α :=
  { c with entries := [], hits := 0, misses := 0, evictions := 0 }

end Cache

end RecordCalc
