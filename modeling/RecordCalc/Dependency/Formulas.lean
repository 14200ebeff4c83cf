/-
  Registering formulas in a dependency graph. A formula that does not read as an expression, or that
  would close a cycle, is turned away with words, and the graph stays as it was.
-/
import RecordCalc.Dependency.Graph
import RecordCalc.Engine.ParseCache

namespace RecordCalc.Dependency.Graph

/-- The graph with a formula field that reads some fields. -/
def register (g : Graph) (field : String) (inputs : List String) : Except String Graph :=
  match g.add? field inputs with
  | some g => .ok g
  | none => .error ("Circular reference detected for field '" ++ field ++ "'")

/-- The graph with a field for a formula that was read. -/
def registerFormula (g : Graph) (field : String) (r : ParseResult) : Except String Graph :=
  match r.outcome with
  | .error message => .error ("Formula parse error: " ++ message)
  | .ok e => g.register field e.fields

/-- What there is to tell of registering a field: that it was turned away. -/
def registerEvents (g : Graph) (field : String) (inputs : List String) : List Log.Event :=
  match g.add? field inputs with
  | some _ => []
  | none => [.formulaRejected field inputs.eraseDups]

/-- What there is to tell of ordering fields: that they form a cycle. -/
def orderEvents (g : Graph) (fields : List String) : List Log.Event :=
  let fields := fields.eraseDups
  if fields.isEmpty || !(g.order fields).isEmpty then [] else [.cycleFound fields]

end RecordCalc.Dependency.Graph
