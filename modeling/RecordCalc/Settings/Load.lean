/-
  Where settings come from: values given outright come first, then the environment, then a file of
  variables, then the defaults. Every setting is checked, so that all problems are reported
  together.
-/
import RecordCalc.Settings.Reading
import RecordCalc.Settings.VariableFile

namespace RecordCalc.Settings

/-- What settings are read from. -/
structure Sources where
  /-- Values by the names of the settings. -/
  given : List (String × Value)
  /-- Variables of the environment. -/
  environment : List (String × String)
  /-- The text of a file of variables. -/
  file : String

/-- The variable of a setting, in lower case: variables are named without regard to case. -/
def variableName (setting : String) : String := "tabformula_" ++ setting

/-- The last value of a variable among some pairs of names and values. -/
def lastValue? (pairs : List (String × α)) (name : String) : Option α :=
  (pairs.reverse.find? fun v => Text.lower v.1 == name).map (·.2)

/-- The value that the sources hold for a setting. -/
def Sources.value? (s : Sources) (setting : String) : Option Value :=
  (Value.lookup s.given setting).or
    ((lastValue? s.environment (variableName setting)).map .text |>.or
      ((lastValue? ((VariableFile.read s.environment s.file).map fun a => (a.name, a.value))
        (variableName setting)).join.map .text))

/-- A setting as the sources hold it, else its default. -/
def Sources.setting (s : Sources) (name : String) (read : Value → Except Problem α) (default : α) :
    Except Issue α :=
  match s.value? name with
  | none => .ok default
  | some v =>
    match read v with
    | .ok a => .ok a
    | .error p => .error ⟨name, p⟩

/-- The issue of a setting that has one. -/
def issue? : Except Issue α → Option Issue
  | .ok _ => none
  | .error i => some i

/-- The settings of some sources, or the issues in the order of the names of the settings. -/
def load (s : Sources) : Except (List Issue) Settings :=
  let default : Settings := {}
  let debug := s.setting "debug" readTruth default.debug
  let emptyText := s.setting "empty_text_is_absent" readTruth default.emptyTextIsAbsent
  let environment := s.setting "environment" readText default.environment
  let json := s.setting "json_logs" readTruth default.jsonLogs
  let level := s.setting "log_level" readLevel default.logLevel
  let mode := s.setting "null_mode" readMode default.nullMode
  let size := s.setting "parse_cache_size" readSize default.parseCacheSize
  match debug, emptyText, environment, json, level, mode, size with
  | .ok debug, .ok emptyText, .ok environment, .ok json, .ok level, .ok mode, .ok size =>
    .ok ⟨environment, debug, level, json, mode, emptyText, size⟩
  | _, _, _, _, _, _, _ =>
    .error ([issue? debug, issue? emptyText, issue? environment, issue? json, issue? level,
      issue? mode, issue? size].filterMap id)

end RecordCalc.Settings
