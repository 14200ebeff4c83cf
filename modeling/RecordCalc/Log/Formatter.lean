/-
  Formatters: a log record as one line for people, by a template and with a coloured level, or as
  one JSON object for machines.
-/
import RecordCalc.Calendar.Pattern
import RecordCalc.Log.JsonText
import RecordCalc.Log.Record
import RecordCalc.Text.Alphanumeric
import RecordCalc.Value.Key

namespace RecordCalc.Log

open Calendar (Moment)

/-! ## Time -/

/-- The pattern of times where none is given; milliseconds follow it. -/
def defaultTimePattern : String := "%Y-%m-%d %H:%M:%S"

/-- The fault of a time that is no number of seconds of 64 bits. -/
def timeTooLarge : Fault := .declared .overflow "timestamp out of range for platform time_t"

/-- The whole seconds of a time. -/
def wholeSeconds : Value → Except Fault Int
  | .bool b => .ok (if b then 1 else 0)
  | .number n =>
    match n.floor with
    | .ok n => .ok n
    | .error .notANumberToInteger =>
      .error (.declared .value "Invalid value NaN (not a number)")
    | .error _ => .error timeTooLarge
  | v => .error (sortFault ("'" ++ v.familyName ++ "' object cannot be interpreted as an integer"))

/-- The greatest year of a time that can be written. -/
def lastYear : Int := Int.pow 2 31 - 1

/-- The moment of a record. Its year has to fit into 32 bits when it is counted from 1900, and
again when it is written. -/
def momentOf (created : Value) : Except Fault Moment := do
  let n ← wholeSeconds created
  if n < -(Int.pow 2 63) || Int.pow 2 63 ≤ n then throw timeTooLarge
  let m : Moment := ⟨n⟩
  if m.year - 1900 < -(Int.pow 2 31) || lastYear < m.year - 1900 then
    throw (.declared (.other "OSError") "[Errno 75] Value too large for defined data type")
  if lastYear < m.year then
    throw (.declared .overflow "signed integer is greater than maximum")
  return m

/-- The time of a record by a pattern; an empty pattern counts as none. -/
def Record.time (r : Record) (pattern : String) : Except Fault String := do
  let m ← momentOf (r.get "created")
  if pattern.isEmpty then
    fill "%s,%03d" (.listed [.text (m.byPattern defaultTimePattern), r.get "msecs"])
  else if pattern.contains '\x00' then throw (.declared .value "embedded null character")
  else return m.byPattern pattern

/-! ## Templates of lines -/

/-- Whether a character may stand in the name of an attribute. -/
def isNameChar (c : Char) : Bool := c == '_' || Text.isAlphanumeric c

/-- Whether a character is the letter of a conversion in any letter case, in which a long s and an i
with or without its dot count as s and i. -/
def isConversion (c : Char) : Bool :=
  "diouxefgcrsa%".toList.contains c.toLower || "ſıİ".toList.contains c

/-- Drops an asterisk or a run of digits. -/
def dropExtent : List Char → List Char
  | '*' :: cs => cs
  | cs => cs.dropWhile Text.isDigit

/-- Drops a point with an asterisk or a run of digits after it. -/
def dropPrecision : List Char → List Char
  | '.' :: cs =>
    let rest := dropExtent cs
    if rest.length < cs.length then rest else '.' :: cs
  | cs => cs

/-- Whether a text starts with a directive for an attribute, after its percent sign. -/
def startsWithAttribute : List Char → Bool
  | '(' :: cs =>
    match cs.takeWhile isNameChar, cs.dropWhile isNameChar with
    | _ :: _, ')' :: cs =>
      match dropPrecision (dropExtent (cs.dropWhile fun c => "#0+ -".toList.contains c)) with
      | c :: _ => isConversion c
      | [] => false
    | _, _ => false
  | _ => false

/-- Whether a template names an attribute anywhere. -/
def namesAttribute : List Char → Bool
  | [] => false
  | c :: cs => (c == '%' && startsWithAttribute cs) || namesAttribute cs

/-- Whether a template asks for the time. -/
def usesTime (template : String) : Bool :=
  (Text.find? "%(asctime)".toList template.toList 0).isSome

/-! ## Colours -/

/-- The control sequence of a display attribute. -/
def control (code : String) : String := "\x1b[" ++ code ++ "m"

/-- The colour of a level by its name; other names get none. -/
def colourCode (level : Value) : String :=
  match level with
  | .text s =>
    if s = "DEBUG" then "36"
    else if s = "INFO" then "32"
    else if s = "WARNING" then "33"
    else if s = "ERROR" then "31"
    else if s = "CRITICAL" then "35"
    else "0"
  | _ => "0"

/-- A level in its colour, which is looked up by the level. -/
def coloured (level : Value) : Except Fault String := do
  let _ ← Key.ofValue level
  return control (colourCode level) ++ (← level.plain) ++ control "0"

/-! ## Formatters -/

/-- A formatter: for people by a template, or for machines; both with a pattern for times. -/
inductive Formatter
  | console (template timePattern : String)
  | json (timePattern : String)
deriving DecidableEq, Repr

namespace Formatter

/-- The name of a kind of formatter. -/
def name : Formatter → String
  | console .. => "ConsoleFormatter"
  | json _ => "JSONFormatter"

/-- The template that is used; an empty one stands for the message alone. -/
def templateOf (template : String) : String :=
  if template.isEmpty then "%(message)s" else template

/-- Checks a template: it has to name an attribute. -/
def check (template : String) : Except Fault Unit :=
  if namesAttribute (templateOf template).toList then .ok ()
  else .error (templateFault ("Invalid format '" ++ template ++ "' for '%' style"))

/-- A formatter for people. -/
def ofTemplate (template timePattern : String) : Except Fault Formatter := do
  check template
  return console (templateOf template) timePattern

/-- A line with more text below it, none when there is none. -/
def withBelow (line : String) (more : Value) : Except Fault String :=
  let separator := if line.toList.getLast? = some '\n' then "" else "\n"
  match more with
  | .text s => .ok (if s.isEmpty then line else line ++ separator ++ s)
  | v =>
    if v.isTruthy then
      .error (sortFault ("can only concatenate str (not \"" ++ v.familyName ++ "\") to str"))
    else .ok line

/-- The attributes of a record in a template. -/
def fillLine (template : String) (r : Record) : Except Fault String :=
  match fill template (.attributes r.arguments) with
  | .error (.declared .key name) =>
    .error (templateFault ("Formatting field not found in record: " ++ Text.quoted name))
  | r => r

/-- A record for people. An error stands below the line. -/
def consoleText (template timePattern : String) (r : Record) : Except Fault String := do
  let r := r.set "levelname" (.text (← coloured (r.get "levelname")))
  let r := r.set "message" (.text (← r.message))
  let r ←
    if usesTime template then pure (r.set "asctime" (.text (← r.time timePattern))) else pure r
  let line ← fillLine template r
  let error ←
    if (r.get "exc_text").isTruthy then pure (r.get "exc_text")
    else
      match ← r.errorLine? with
      | some text => pure (.text text)
      | none => pure .null
  withBelow (← withBelow line error) (r.get "stack_info")

/-- The attributes that every record may have; others are further data. -/
def standardAttributes : List String :=
  ["name", "msg", "args", "created", "filename", "funcName", "levelname", "levelno", "lineno",
    "module", "msecs", "pathname", "process", "processName", "relativeCreated", "stack_info",
    "exc_info", "exc_text", "thread", "threadName", "taskName", "message"]

/-- Whether an attribute is further data; a name with an underscore in front is private. -/
def isFurther (name : String) : Bool :=
  !standardAttributes.contains name && name.toList.head? != some '_'

/-- A record for machines. -/
def jsonText (timePattern : String) (r : Record) : Except Fault String := do
  let further := r.attributes.filter fun a => isFurther a.1
  let entries : List (String × Value) :=
    [("timestamp", .text (← r.time timePattern)), ("level", r.get "levelname"),
      ("logger", r.get "name"), ("message", .text (← r.message)), ("module", r.get "module"),
      ("function", r.get "funcName"), ("line", r.get "lineno")]
  let error := (← r.errorLine?).toList.map fun text => ("exception", Value.text text)
  let extra := if further.isEmpty then [] else [("extra", Value.map further)]
  Json.write 0 (.map (entries ++ error ++ extra))

/-- A record as a formatter writes it. -/
def format (f : Formatter) (r : Record) : Except Fault String :=
  match f with
  | console template timePattern => consoleText template timePattern r
  | json timePattern => jsonText timePattern r

end Formatter

end RecordCalc.Log
