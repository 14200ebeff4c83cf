/-
  Levels of log records. A logger and a handler let pass what is at or above their level.
-/
namespace RecordCalc.Log

/-- Levels, the least urgent first; `unset` is that of a logger that leaves the choice to the
root. -/
inductive Level
  | unset | debug | info | warning | error | critical
deriving DecidableEq, Repr

namespace Level

/-- All levels. -/
def all : List Level := [unset, debug, info, warning, error, critical]

/-- The name of a level. -/
def name : Level → String
  | unset => "NOTSET"
  | debug => "DEBUG"
  | info => "INFO"
  | warning => "WARNING"
  | error => "ERROR"
  | critical => "CRITICAL"

/-- The number of a level; higher is more urgent. -/
def number : Level → Nat
  | unset => 0
  | debug => 10
  | info => 20
  | warning => 30
  | error => 40
  | critical => 50

/-- The level of a name; two levels have a second name. -/
def ofName? (s : String) : Option Level :=
  if s = "WARN" then some warning
  else if s = "FATAL" then some critical
  else all.find? (·.name == s)

/-- The levels that a setting may choose. -/
def selectable : List Level := [debug, info, warning, error, critical]

/-- The level from which a logger lets records pass: without one of its own, that of the root. -/
def threshold : Level → Nat
  | unset => warning.number
  | l => l.number

end Level

end RecordCalc.Log
