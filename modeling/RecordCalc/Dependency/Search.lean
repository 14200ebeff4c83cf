/-
  Searches in directed graphs: everything that can be reached from some nodes, nearer nodes first,
  and an order of some nodes in which each comes after those it needs.
-/
namespace RecordCalc.Dependency

/-- The seen nodes and what can be reached from the queue, level by level, in at most the given
number of steps. -/
def spread (next : String → List String) : (steps : Nat) → (queue seen : List String) → List String
  | 0, _, seen => seen
  | _, [], seen => seen
  | n + 1, x :: queue, seen =>
    let fresh := (next x).filter (!seen.contains ·)
    spread next n (queue ++ fresh) (seen ++ fresh)

/-- Counts one need less for a node. -/
def lessen (node : String) (needs : List (String × Int)) : List (String × Int) :=
  needs.map fun (n, k) => if n == node then (n, k - 1) else (n, k)

/-- Takes a node off the needs of its readers: the new needs, and the readers that need nothing
more. -/
def release : (readers : List String) → List (String × Int) → List (String × Int) × List String
  | [], needs => (needs, [])
  | reader :: rest, needs =>
    let needs := lessen reader needs
    let (after, free) := release rest needs
    (after, if needs.contains (reader, 0) then reader :: free else free)

/-- Takes nodes that need nothing, the first freed first, in at most the given number of steps. -/
def takeFree (readers : String → List String) :
    (steps : Nat) → (free : List String) → List (String × Int) → List String
  | 0, _, _ => []
  | _, [], _ => []
  | n + 1, x :: free, needs =>
    let (needs, freed) := release (readers x) needs
    x :: takeFree readers n (free ++ freed) needs

end RecordCalc.Dependency
