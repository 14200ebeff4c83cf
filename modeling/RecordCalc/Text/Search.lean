/-
  Cutting and searching texts by code point: slices, the first occurrence at or after a place, and
  replacement of occurrences from left to right without overlap.
-/
namespace RecordCalc.Text

/-- The `count` characters from place `start` on, fewer where the text ends. -/
def slice (cs : List Char) (start count : Nat) : List Char := (cs.drop start).take count

/-- The last `count` characters. -/
def takeRight (cs : List Char) (count : Nat) : List Char := cs.drop (cs.length - count)

/-- Place of the first occurrence, counted from `place` for the head of the list. -/
def findFrom (needle : List Char) (place : Nat) : List Char → Option Nat
  | [] => if needle.isEmpty then some place else none
  | c :: cs => if needle.isPrefixOf (c :: cs) then some place else findFrom needle (place + 1) cs

/-- Place of the first occurrence at or after `start`; none past the end of the text. -/
def find? (needle text : List Char) (start : Nat) : Option Nat :=
  if start ≤ text.length then findFrom needle start (text.drop start) else none

/--
Replaces occurrences of the non-empty text `old` from left to right, at most `limit` of them when
there is a limit. `skip` counts the characters of an occurrence that are still to be dropped.
-/
def replaceFrom (old new : List Char) : (skip : Nat) → (limit : Option Nat) → List Char → List Char
  | _, _, [] => []
  | skip + 1, limit, _ :: cs => replaceFrom old new skip limit cs
  | 0, some 0, c :: cs => c :: replaceFrom old new 0 (some 0) cs
  | 0, limit, c :: cs =>
    if old.isPrefixOf (c :: cs) then
      new ++ replaceFrom old new (old.length - 1) (limit.map (· - 1)) cs
    else c :: replaceFrom old new 0 limit cs

/-- Replaces occurrences of `old`, all of them without a limit; an empty `old` occurs nowhere. -/
def replace (old new : List Char) (limit : Option Nat) (text : List Char) : List Char :=
  if old.isEmpty then text else replaceFrom old new 0 limit text

/-- The text written `count` times over. -/
def repeated (cs : List Char) (count : Nat) : List Char := (List.replicate count cs).flatten

/-- The texts with a separator between neighbours. -/
def join (separator : String) (parts : List String) : String := separator.intercalate parts

end RecordCalc.Text
