/-
  Which fields each formula field reads. Two maps are kept: the inputs of every formula field, and
  the formula fields that read a field. A formula that would close a cycle is rejected. The order of
  insertion decides every order.
-/
import RecordCalc.Dependency.Search

namespace RecordCalc.Dependency

/-- Lists of fields by field, in the order of insertion. -/
abbrev FieldMap := List (String × List String)

namespace FieldMap

/-- The list of a field, empty for a field without one. -/
def get (m : FieldMap) (field : String) : List String :=
  ((m.find? (·.1 == field)).map (·.2)).getD []

/-- Sets the list of a field, in place when it has one. -/
def set (m : FieldMap) (field : String) (fields : List String) : FieldMap :=
  if m.any (·.1 == field) then m.map fun e => if e.1 == field then (field, fields) else e
  else m ++ [(field, fields)]

/-- Drops the list of a field. -/
def erase (m : FieldMap) (field : String) : FieldMap := m.filter (!·.1 == field)

/-- Adds a field at the end of the list of another, unless it is there. -/
def insert (m : FieldMap) (field name : String) : FieldMap :=
  let fields := m.get field
  m.set field (if fields.contains name then fields else fields ++ [name])

/-- Drops a field from the list of another; a list that empties is dropped. -/
def remove (m : FieldMap) (field name : String) : FieldMap :=
  if m.any (·.1 == field) then
    match (m.get field).filter (· != name) with
    | [] => m.erase field
    | fields => m.set field fields
  else m

/-- The number of fields in all lists. -/
def total (m : FieldMap) : Nat := (m.map (·.2.length)).foldl (· + ·) 0

end FieldMap

/-- A graph of formula fields. -/
structure Graph where
  /-- The fields that each formula field reads. -/
  requires : FieldMap
  /-- The formula fields that read a field. -/
  dependents : FieldMap

namespace Graph

/-- The graph without formula fields. -/
def empty : Graph := ⟨[], []⟩

/-- Whether a field can be reached from some fields through what they read, themselves included. -/
def reaches (g : Graph) (sources : List String) (field : String) : Bool :=
  let sources := sources.eraseDups
  (spread g.requires.get (sources.length + g.requires.total) sources sources).contains field

/-- Forgets that a formula field reads its inputs, on their side. -/
def unlink (g : Graph) (field : String) : Graph :=
  { g with dependents := (g.requires.get field).foldl (·.remove · field) g.dependents }

/-- Records the inputs of a formula field, on both sides. -/
def link (g : Graph) (field : String) (inputs : List String) : Graph :=
  ⟨g.requires.set field inputs, inputs.foldl (·.insert · field) g.dependents⟩

/-- The graph with a formula field and its inputs, none when they would close a cycle. -/
def add? (g : Graph) (field : String) (inputs : List String) : Option Graph :=
  let inputs := inputs.eraseDups
  if g.reaches inputs field then none else some ((g.unlink field).link field inputs)

/-- The graph without a formula field and without what was recorded of its readers. -/
def remove (g : Graph) (field : String) : Graph :=
  let g := g.unlink field
  ⟨g.requires.erase field, g.dependents.erase field⟩

/-- The graph with one more input of a formula field, whether or not that closes a cycle. -/
def addEdge (g : Graph) (field input : String) : Graph :=
  ⟨g.requires.insert field input, g.dependents.insert input field⟩

/-- The formula fields that a change of a field affects, nearer ones first. -/
def affected (g : Graph) (field : String) : List String :=
  (spread g.dependents.get (g.dependents.total + 1) [field] [field]).tail

/-- How many of some fields a field reads. -/
def needsAmong (g : Graph) (fields : List String) (field : String) : Int :=
  ((g.requires.get field).filter (fields.contains ·)).length

/-- The fields in an order in which each comes after those of them that it reads; none for a
cycle. -/
def order (g : Graph) (fields : List String) : List String :=
  let fields := fields.eraseDups
  let needs := fields.map fun f => (f, g.needsAmong fields f)
  let free := (needs.filter (·.2 == 0)).map (·.1)
  let order := takeFree g.dependents.get (fields.length + 1) free needs
  if order.length = fields.length then order else []

/-- The number of formula fields. -/
def size (g : Graph) : Nat := g.requires.length

/-- The graph as it is shown. -/
def shown (g : Graph) : String :=
  "FormulaDependencyGraph(fields=" ++ toString g.size ++ ", edges=" ++
    toString g.requires.total ++ ")"

end Graph

end RecordCalc.Dependency
