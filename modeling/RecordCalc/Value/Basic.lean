/-
  The values that formulas compute with: nothing, truth values of two- and three-valued logic,
  numbers, texts, dates, arrays and maps, the marks of absent data, and what records and pipelines
  hold beside them. `typeOf` sorts the values into the types that operators declare.
-/
import RecordCalc.Calendar.DateTime
import RecordCalc.Number.Decimal

namespace RecordCalc

open Calendar (Date DateTime)

/-- The types that operators declare for arguments and results. -/
inductive ValueType
  | number | text | boolean | date | array | null
  /-- Every value. -/
  | any
deriving DecidableEq, Repr

namespace ValueType

/-- All types. -/
def all : List ValueType := [number, text, boolean, date, array, null, any]

/-- The name of a type. -/
def name : ValueType → String
  | number => "number"
  | text => "text"
  | boolean => "boolean"
  | date => "date"
  | array => "array"
  | null => "null"
  | any => "any"

/-- The type of a name. -/
def ofName (s : String) : Except Fault ValueType :=
  match all.find? (·.name == s) with
  | some t => .ok t
  | none => .error (.notAMember (Text.quoted s) "ValueType")

end ValueType

/-- Marks of absent data. -/
inductive MarkKind
  /-- The value exists but is not known. -/
  | applicable
  /-- There is no such value. -/
  | inapplicable
deriving DecidableEq, Repr

namespace MarkKind

/-- The name of a kind of mark. -/
def name : MarkKind → String
  | applicable => "a_mark"
  | inapplicable => "i_mark"

/-- The reason of a mark that states none. -/
def defaultReason : MarkKind → String
  | applicable => "Value exists but is unknown"
  | inapplicable => "Attribute does not apply to this entity"

end MarkKind

/-- An aggregate that tells how much of its input was missing. -/
structure Aggregate where
  value : Option Number
  total : Nat
  nulls : Nat
  inapplicable : Nat
  present : Nat
  applicable : Nat
  /-- The present part of the applicable values. -/
  certainty : Float

/-- A value. -/
inductive Value
  | null
  | bool (b : Bool)
  /-- The third truth value. -/
  | unknown
  | number (n : Number)
  | decimal (d : Decimal)
  | text (s : String)
  | date (d : Date)
  | datetime (t : DateTime)
  | list (vs : List Value)
  | tuple (vs : List Value)
  /-- Values by name, each name once, in the order of insertion. -/
  | map (entries : List (String × Value))
  | mark (kind : MarkKind) (reason : String)
  | aggregate (a : Aggregate)
  /-- Several observations of one field, each a value and the time of its recording. -/
  | cell (observations : List (Value × Value))
  | observation (value timestamp : Value)
  /-- A reference to an earlier value of a pipeline. -/
  | stepRef (index : Int)
  /-- A step of a pipeline. -/
  | step (operator : String) (args : List Value)

instance : Inhabited Value := ⟨.null⟩

namespace Value

/-- An integer as a value. -/
def int (n : Int) : Value := number (.int n)

/-- A floating-point number as a value. -/
def float (x : Float) : Value := number (.float x)

/-- A number as a value, nothing for none. -/
def ofNumber? : Option Number → Value
  | some n => number n
  | none => null

/-- The type of a value. -/
def typeOf : Value → ValueType
  | null | mark .. => .null
  | unknown | bool _ => .boolean
  | number _ | decimal _ => .number
  | date _ | datetime _ => .date
  | list _ | tuple _ => .array
  | text _ | map _ | aggregate _ | cell _ | observation .. | stepRef _ | step .. => .text

/-- Whether the value is a mark. -/
def isMark : Value → Bool
  | mark .. => true
  | _ => false

/-- Whether the value is the third truth value. -/
def isUnknown : Value → Bool
  | unknown => true
  | _ => false

/-- Whether the value is missing data: nothing, a mark, or the empty text if that counts. -/
def isAbsent (value : Value) (emptyText : Bool) : Bool :=
  match value with
  | null | mark .. => true
  | text s => emptyText && s.isEmpty
  | _ => false

/-- Whether the value is a number, truth values apart. -/
def isNumeric : Value → Bool
  | number _ | decimal _ => true
  | _ => false

/-- Whether the value is a date or a datetime. -/
def isDate : Value → Bool
  | date _ | datetime _ => true
  | _ => false

/-- The items of an array. -/
def items? : Value → Option (List Value)
  | list vs | tuple vs => some vs
  | _ => none

/-- Whether the value counts as true where any value may stand. -/
def isTruthy : Value → Bool
  | null | unknown | mark .. => false
  | bool b => b
  | number n => !n.isZero
  | decimal (.finite _ c _) => c != 0
  | decimal _ => true
  | text s => !s.isEmpty
  | list vs | tuple vs => !vs.isEmpty
  | map entries => !entries.isEmpty
  | cell observations => !observations.isEmpty
  | date _ | datetime _ | aggregate _ | observation .. | stepRef _ | step .. => true

mutual

/-- Whether a copy may share the value: it has no part that could change. -/
def isShared : Value → Bool
  | null | bool _ | unknown | number _ | decimal _ | text _ => true
  | tuple vs => areShared vs
  | date _ | datetime _ | list _ | map _ | mark .. | aggregate _ | cell _ | observation ..
  | stepRef _ | step .. => false

/-- Whether a copy may share all of the values. -/
def areShared : List Value → Bool
  | [] => true
  | v :: vs => isShared v && areShared vs

end

/-- The name of the kind of a value. -/
def kindName : Value → String
  | null => "NoneType"
  | bool _ => "bool"
  | unknown => "_Unknown"
  | number (.int _) => "int"
  | number (.float _) | number (.nan _) => "float"
  | decimal _ => "Decimal"
  | text _ => "str"
  | date _ => "date"
  | datetime _ => "datetime"
  | list _ => "list"
  | tuple _ => "tuple"
  | map _ => "dict"
  | mark .applicable _ => "AMark"
  | mark .inapplicable _ => "IMark"
  | aggregate _ => "NullTrackedAggregate"
  | cell _ => "MultiObservationCell"
  | observation .. => "Observation"
  | stepRef _ => "StepRef"
  | step .. => "PipelineStep"

/-- The name of the kind of a value with the family that it belongs to. -/
def familyName : Value → String
  | decimal _ => "decimal.Decimal"
  | date _ => "datetime.date"
  | datetime _ => "datetime.datetime"
  | v => v.kindName

/-- The value of a name in a map. -/
def lookup (entries : List (String × Value)) (name : String) : Option Value :=
  (entries.find? (·.1 == name)).map (·.2)

/-- Puts a value under a name: in place when the name is there, else at the end. -/
def insertEntry (entries : List (String × Value)) (name : String) (value : Value) :
    List (String × Value) :=
  match entries with
  | [] => [(name, value)]
  | (n, v) :: rest =>
    if n == name then (n, value) :: rest else (n, v) :: insertEntry rest name value

/-- A map of entries given in order; a name given again replaces its value. -/
def mapOf (entries : List (String × Value)) : Value :=
  map (entries.foldl (fun m e => insertEntry m e.1 e.2) [])

end Value

end RecordCalc
