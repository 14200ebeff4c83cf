/-
  The settings of an engine and of logging, and what may be wrong with a value that is given for
  one.
-/
import RecordCalc.Evaluation.Eval
import RecordCalc.Log.Level

namespace RecordCalc

/-- Settings; those that are not given have the values stated here. -/
structure Settings where
  environment : String := "development"
  debug : Bool := false
  logLevel : Log.Level := .info
  jsonLogs : Bool := false
  nullMode : NullMode := .codd
  emptyTextIsAbsent : Bool := true
  parseCacheSize : Int := 1000

namespace Settings

/-- Whether three-valued logic is chosen. -/
def isCodd (s : Settings) : Bool := s.nullMode == .codd

/-- What may be wrong with a given value. -/
inductive Problem
  /-- Not a text where a text is needed. -/
  | notText
  /-- A value that is never a truth value. -/
  | notTruth
  /-- A text or number that denotes no truth value. -/
  | unreadableTruth
  /-- A value that is never an integer. -/
  | notInteger
  /-- A text that denotes no integer. -/
  | unreadableInteger
  /-- A number with too many digits. -/
  | integerTooLong
  /-- A number with a fraction where an integer is needed. -/
  | fractional
  /-- An infinity or not-a-number where an integer is needed. -/
  | notFinite
  /-- A number below the least one allowed. -/
  | tooSmall
  /-- A value that is not one of those to choose from. -/
  | notAChoice
  /-- A value refused for a reason in words. -/
  | refused (reason : String)
deriving DecidableEq, Repr

namespace Problem

/-- The name of a problem. -/
def name : Problem → String
  | notText => "string_type"
  | notTruth => "bool_type"
  | unreadableTruth => "bool_parsing"
  | notInteger => "int_type"
  | unreadableInteger => "int_parsing"
  | integerTooLong => "int_parsing_size"
  | fractional => "int_from_float"
  | notFinite => "finite_number"
  | tooSmall => "greater_than_equal"
  | notAChoice => "enum"
  | refused _ => "value_error"

/-- The words of a problem, none where the name says all. -/
def text? : Problem → Option String
  | refused reason => some ("Value error, " ++ reason)
  | _ => none

end Problem

/-- A problem with the value of a setting. -/
structure Issue where
  setting : String
  problem : Problem
deriving DecidableEq, Repr

end Settings

end RecordCalc
