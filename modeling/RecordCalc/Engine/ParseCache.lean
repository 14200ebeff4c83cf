/-
  Reading formulas with a memory: what a formula reads as is kept for the next time, as long as
  there is room. Formulas that do not read as anything are not kept. The list of fields that comes
  with an answer belongs to the caller; the memory keeps a list of its own.
-/
import RecordCalc.Cache
import RecordCalc.Engine.FieldLists
import RecordCalc.Formula.Parser
import RecordCalc.Log.Event

namespace RecordCalc

open Log (Event)

/-- What a formula reads as: an expression, or the words of what is wrong with it. -/
structure ParseResult where
  outcome : Except String Expr

namespace ParseResult

/-- Whether the formula reads as an expression. -/
def isValid (r : ParseResult) : Bool := r.outcome.isOk

/-- The expression, none for an invalid formula. -/
def expr? (r : ParseResult) : Option Expr := r.outcome.toOption

/-- What is wrong, none for a valid formula. -/
def error? (r : ParseResult) : Option String :=
  match r.outcome with
  | .ok _ => none
  | .error e => some e

end ParseResult

/-- What a formula reads as, and the fields that it reads in the order of their first use, as their
list stood when it was handed out. -/
structure Parsed extends ParseResult where
  dependencies : List String

/-- What is kept of a formula: its expression and the place of the list of its fields. -/
structure Kept where
  expr : Expr
  fields : Place

/-- The formulas read last, and the lists of fields in use. -/
structure ParseCache where
  formulas : Cache String Kept
  lists : FieldLists

namespace ParseCache

/-- What came of reading a formula, the memory after it, what there is to tell, and the places of
the lists that were handed out. -/
structure Answer where
  outcome : Except Failure Parsed
  cache : ParseCache
  events : List Event
  handed : List Place

/-- A memory for so many formulas. -/
def ofCapacity (capacity : Int) : Except Fault ParseCache := do
  return ⟨← Cache.ofCapacity capacity, .empty⟩

/-- The memory without formulas. -/
def clear (c : ParseCache) : ParseCache := { c with formulas := c.formulas.clear }

/-- Hands out a result with a new list of fields. -/
def handOut (c : ParseCache) (r : ParseResult) (fields : List String) (events : List Event) :
    Answer :=
  let (place, lists) := c.lists.add fields
  ⟨.ok ⟨r, lists.get place⟩, { c with lists := lists }, events, [place]⟩

/-- Reads a formula text that is not in the memory. -/
def readAnew (c : ParseCache) (formula : String) : Answer :=
  match Formula.parse formula with
  | .ok e =>
    let (place, lists) := c.lists.add e.fields
    let (copy, lists) := lists.add (lists.get place)
    let (evicted, formulas) := c.formulas.put formula ⟨e, copy⟩
    ⟨.ok ⟨⟨.ok e⟩, lists.get place⟩, ⟨formulas, lists⟩, evicted.toList.map .cacheEvicted, [place]⟩
  | .error f =>
    if f.isKind .formulaSyntax then
      c.handOut ⟨.error f.message⟩ [] [.parseFailed formula f.message]
    else ⟨.error f, c, [], []⟩

/-- Reads a formula; only a text is one. -/
def parse (c : ParseCache) (formula : Value) : Answer :=
  match formula with
  | .text s =>
    match c.formulas.get s with
    | (some kept, formulas) =>
      ParseCache.handOut ⟨formulas, c.lists⟩ ⟨.ok kept.expr⟩ (c.lists.get kept.fields)
        [.parseCacheHit s]
    | (none, formulas) => ParseCache.readAnew ⟨formulas, c.lists⟩ s
  | _ => c.handOut ⟨.error "Formula is required and must be a string"⟩ [] []

end ParseCache

end RecordCalc
