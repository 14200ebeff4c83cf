/-
  Lists of field names that are handed out. Whoever gets a list may change it, so every list stands
  at a place of its own, and what is to stay as it is has to be a copy at another place.
-/
namespace RecordCalc

/-- The place of a list. -/
abbrev Place := Nat

/-- Lists of field names by their places. -/
structure FieldLists where
  lists : List (List String)

namespace FieldLists

/-- No lists. -/
def empty : FieldLists := ⟨[]⟩

/-- The list at a place, empty where none stands. -/
def get (l : FieldLists) (place : Place) : List String := (l.lists[place]?).getD []

/-- The place of a new list, and the lists with it. -/
def add (l : FieldLists) (names : List String) : Place × FieldLists :=
  (l.lists.length, ⟨l.lists ++ [names]⟩)

/-- The lists after a change of the one at a place. -/
def set (l : FieldLists) (place : Place) (names : List String) : FieldLists :=
  ⟨l.lists.set place names⟩

end FieldLists

end RecordCalc
