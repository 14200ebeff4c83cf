/-
  Log records: attributes by name. The words of a record are its message, filled with its arguments.
-/
import RecordCalc.Log.Event
import RecordCalc.Log.Fill

namespace RecordCalc.Log

/-- What a record is made of. -/
structure Draft where
  logger : String
  level : Level
  message : Value
  args : List Value := []
  path : String := ""
  line : Value := .int 0
  function : Value := .null
  /-- Seconds since the epoch, and the milliseconds of the second. -/
  created : Value := .int 0
  millis : Value := .int 0
  /-- Further attributes; they take the place of others of the same name. -/
  extra : List (String × Value) := []
  /-- The error that the record tells of. -/
  error : Option ErrorInfo := none

/-- The draft of an event. -/
def Draft.ofEvent (e : Event) : Draft :=
  { logger := e.source, level := e.level, message := .text e.message, extra := e.extra }

/-- The last part of a path. -/
def fileName (path : String) : String := ((path.splitOn "/").getLast?).getD ""

/-- A file name without its last extension; points in front start none. -/
def stem (name : String) : String :=
  let cs := name.toList
  let after := cs.dropWhile (· == '.')
  match (after.reverse.dropWhile (· != '.')).reverse with
  | [] => name
  | withPoint => String.ofList (cs.take (cs.length - after.length) ++ withPoint.dropLast)

/-- The arguments of a message: a single map that is not empty is taken by key. -/
def argumentsOf : List Value → Value
  | [.map (e :: entries)] => .map (e :: entries)
  | vs => .tuple vs

/-- The attribute of the error. -/
def errorAttribute : String := "exc_info"

/-- A log record: its attributes, and the error that it tells of unless further attributes hold a
value in its place. -/
structure Record where
  attributes : List (String × Value)
  error : Option ErrorInfo

namespace Record

/-- The record of a draft. -/
def ofDraft (r : Draft) : Record :=
  let standard : List (String × Value) :=
    [("name", .text r.logger), ("msg", r.message), ("args", argumentsOf r.args),
      ("levelname", .text r.level.name), ("levelno", .int r.level.number),
      ("pathname", .text r.path), ("filename", .text (fileName r.path)),
      ("module", .text (stem (fileName r.path))), (errorAttribute, .null), ("exc_text", .null),
      ("stack_info", .null), ("lineno", r.line), ("funcName", r.function), ("created", r.created),
      ("msecs", r.millis), ("threadName", .text "MainThread"),
      ("processName", .text "MainProcess")]
  { attributes := r.extra.foldl (fun m e => Value.insertEntry m e.1 e.2) standard
    error := if (r.extra.map (·.1)).contains errorAttribute then none else r.error }

/-- An attribute, nothing when it is missing. -/
def get (r : Record) (name : String) : Value := (Value.lookup r.attributes name).getD .null

/-- The record with an attribute. -/
def set (r : Record) (name : String) (v : Value) : Record :=
  { r with attributes := Value.insertEntry r.attributes name v }

/-- The attributes as arguments of a template. -/
def arguments (r : Record) : List (String × Argument) :=
  r.attributes.map fun a =>
    match r.error with
    | some e => (a.1, if a.1 = errorAttribute then .error e else .value a.2)
    | none => (a.1, .value a.2)

/-- The line of the error, none when there is none. -/
def errorLine? (r : Record) : Except Fault (Option String) :=
  match r.error with
  | some e => .ok (some e.line)
  | none =>
    if (r.get errorAttribute).isTruthy then some <$> ErrorInfo.lineOf (r.get errorAttribute)
    else .ok none

/-- The words of a record. Without arguments the message stands as it is. -/
def message (r : Record) : Except Fault String := do
  let template ← (r.get "msg").plain
  match r.get "args" with
  | .tuple vs => if vs.isEmpty then return template else fill template (.listed vs)
  | .map entries => if entries.isEmpty then return template else fill template (.named entries)
  | .list vs => if vs.isEmpty then return template else fill template (.array vs)
  | v => if v.isTruthy then fill template (.listed [v]) else return template

end Record

end RecordCalc.Log
