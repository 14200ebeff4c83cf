/-
  Where log records go. Setting up chooses a level and a formatter for the loggers of the library;
  what is logged by one of them at that level or above becomes a line of output.
-/
import RecordCalc.Log.Formatter
import RecordCalc.Text.Case

namespace RecordCalc.Log

/-- The logger of the library; the others of it stand below. -/
def rootLogger : String := "tabformula"

/-- Whether a logger is the one of the library or stands below it. -/
def isOwnLogger (name : String) : Bool :=
  name = rootLogger || (rootLogger ++ ".").toList.isPrefixOf name.toList

/-- What logging is set up with; an empty template stands for the default one. -/
structure Setup where
  level : String := "INFO"
  json : Bool := false
  template : String := ""

/-- The template of lines where none is given. -/
def defaultTemplate : String :=
  "%(asctime)s | %(levelname)-8s | %(name)s:%(funcName)s:%(lineno)d - %(message)s"

/-- A level and a formatter. -/
structure Handler where
  level : Level
  formatter : Formatter

/-- The handler, if logging has been set up, and the lines written so far, the last one first. -/
structure Output where
  handler : Option Handler
  reversed : List String

namespace Output

/-- Nothing set up and nothing written. -/
def start : Output := ⟨none, []⟩

/-- The lines written so far. -/
def lines (o : Output) : List String := o.reversed.reverse

/-- The level of the loggers of the library. -/
def level (o : Output) : Level := (o.handler.map (·.level)).getD .unset

/-- Whether a record of a level by a logger is written by a handler. -/
def passes (h : Handler) (logger : String) (level : Level) : Bool :=
  isOwnLogger logger && h.level.threshold ≤ level.number

/-- Logs a record at a moment, in seconds since the epoch. A record that cannot be formatted is
dropped. -/
def log (o : Output) (moment : Value) (d : Draft) : Output :=
  match o.handler with
  | none => o
  | some h =>
    if passes h d.logger d.level then
      match h.formatter.format (.ofDraft { d with created := moment }) with
      | .ok text => { o with reversed := (text.splitOn "\n").reverse ++ o.reversed }
      | .error _ => o
    else o

/-- Logs an event. -/
def tell (o : Output) (moment : Value) (e : Event) : Output := o.log moment (.ofEvent e)

/-- Logs events in order. -/
def tellAll (o : Output) (moment : Value) (es : List Event) : Output :=
  es.foldl (tell · moment) o

/-- The handler of a setup; the level may be given in any letter case. -/
def handlerOf (s : Setup) : Except Fault Handler := do
  let name := Text.upper s.level
  match Level.ofName? name with
  | none => throw (.declared .value ("Unknown level: " ++ Text.quoted name))
  | some level =>
    if s.json then return ⟨level, .json ""⟩
    else
      let template := if s.template.isEmpty then defaultTemplate else s.template
      return ⟨level, ← Formatter.ofTemplate template defaultTimePattern⟩

/-- Sets logging up anew and tells so. -/
def configure (o : Output) (moment : Value) (s : Setup) : Except Fault Output := do
  let h ← handlerOf s
  return { o with handler := some h }.tell moment (.configured (Text.upper s.level) s.json)

end Output

end RecordCalc.Log
