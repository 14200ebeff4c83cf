/-
  What the library tells of its work. An event names the part that reports it, its level, its words
  and further data by name.
-/
import RecordCalc.Log.Level
import RecordCalc.Value.Shown

namespace RecordCalc.Log

/-- Events. -/
inductive Event
  /-- Logging was set up, with the level as it was given. -/
  | configured (level : String) (json : Bool)
  | engineCreated (mode : String) (cacheSize : Int)
  | parseCacheHit (formula : String)
  | parseFailed (formula message : String)
  | cacheEvicted (formula : String)
  | evaluationFailed (formula message : String)
  | nestingExceeded (formula : String)
  | pipelineExecuted (entries : Nat)
  | formulaRejected (field : String) (inputs : List String)
  | cycleFound (fields : List String)
deriving DecidableEq, Repr

namespace Event

/-- The name of the logger that reports an event. -/
def source : Event → String
  | configured .. => "tabformula.core.logging"
  | engineCreated .. | evaluationFailed .. | nestingExceeded _ =>
    "tabformula.formula.engine.FormulaEngine"
  | parseCacheHit _ | parseFailed .. => "tabformula.formula.parser"
  | cacheEvicted _ => "tabformula.formula.cache"
  | pipelineExecuted _ => "tabformula.formula.composition.ChainValidator"
  | formulaRejected .. | cycleFound _ => "tabformula.formula.dependencies.FormulaDependencyGraph"

/-- The level of an event: what is set up is news, all else is for the search of errors. -/
def level : Event → Level
  | configured .. | engineCreated .. => .info
  | _ => .debug

/-- Names in quotes between brackets. -/
def listed (names : List String) : String :=
  "[" ++ Text.join ", " (names.map Text.quoted) ++ "]"

/-- The words of an event. -/
def message : Event → String
  | configured .. => "Logging configured"
  | engineCreated .. => "Formula engine created"
  | parseCacheHit formula => "Parse cache hit for " ++ Text.quoted formula
  | parseFailed formula message => "Failed to parse " ++ Text.quoted formula ++ ": " ++ message
  | cacheEvicted formula => "Evicted cache entry " ++ Text.quoted formula
  | evaluationFailed formula message =>
    "Evaluation of " ++ Text.quoted formula ++ " failed: " ++ message
  | nestingExceeded formula =>
    "Evaluation of " ++ Text.quoted formula ++ " exceeded the nesting limit"
  | pipelineExecuted entries => "Executed pipeline with " ++ toString entries ++ " trace entries"
  | formulaRejected field inputs =>
    "Rejected " ++ field ++ ": circular reference via " ++ listed inputs
  | cycleFound fields => "Cycle among " ++ listed fields

/-- Further data of an event. -/
def extra : Event → List (String × Value)
  | configured level json => [("log_level", .text level), ("json_logs", .bool json)]
  | engineCreated mode cacheSize =>
    [("null_mode", .text mode), ("cache_size", .int cacheSize)]
  | _ => []

end Event

end RecordCalc.Log
