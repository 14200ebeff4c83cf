/-
  Engines: a memory of parsed formulas together with an evaluator. Whatever formula an engine is
  given, it answers with a result that tells success or failure; only what neither the parser nor
  the evaluator answers for is left to the caller as a failure of the call itself.
-/
import RecordCalc.Engine.ParseCache
import RecordCalc.Evaluation.Eval
import RecordCalc.Settings.Basic
import RecordCalc.Text.Case

namespace RecordCalc

open Log (Event)

/-! ## Results -/

/-- Where a computed value came from. -/
structure Provenance where
  definition : String
  formula : String
  dependencies : List String
  method : String := "derived"
  scale : String := "individual"
  agentType : String := "system"
  agentId : String := "formula_engine"
deriving DecidableEq, Repr

/-- Whether a character may stand in the name of a definition. -/
def isDefinitionChar (c : Char) : Bool := c.isLower || c.isDigit || c == '_'

/-- The name of the definition that a formula makes: its lower case, other characters as
underscores, cut to 50 characters. -/
def definitionName (formula : String) : String :=
  String.ofList
    (((Text.lower formula).toList.map fun c => if isDefinitionChar c then c else '_').take 50)

/-- The provenance of the value of a formula. -/
def Provenance.ofFormula (formula : String) (dependencies : List String) : Provenance :=
  { definition := definitionName formula, formula := formula, dependencies := dependencies }

/-- What an evaluation of one formula against one record came to. -/
structure EvaluationResult where
  value : Value
  dependencies : List String
  provenance : Option Provenance
  success : Bool
  error : Option String
  errorCode : Option String

namespace EvaluationResult

/-- A result with a value. -/
def computed (formula : String) (dependencies : List String) (v : Value) : EvaluationResult :=
  ⟨v, dependencies, some (.ofFormula formula dependencies), true, none, none⟩

/-- A result without a value: the words of what went wrong and their code. -/
def failed (dependencies : List String) (message code : String) : EvaluationResult :=
  ⟨.null, dependencies, none, false, some message, some code⟩

/-- The result for a formula that does not read as an expression. -/
def unreadable (dependencies : List String) (message : String) : EvaluationResult :=
  failed dependencies ("Formula parse error: " ++ message) FailureKind.formulaSyntax.code

end EvaluationResult

/-! ## Engines -/

/-- An engine. -/
structure Engine where
  evaluator : Evaluator
  cache : ParseCache

/-- What a call of an engine came to, the engine after it, the rules it applied, what there is to
tell, and the places of the lists that were handed out. -/
structure Engine.Answer (α : Type) where
  outcome : Except Failure α
  engine : Engine
  uses : List RuleUse
  events : List Event
  handed : List Place

namespace Engine

/-- The event of a new engine. -/
def createdEvent (e : Engine) : Event :=
  .engineCreated e.evaluator.mode.name e.cache.formulas.capacity

/-- The regime that a value names; the one of the settings when nothing is given. -/
def chooseMode (settings : Settings) : Value → Except Failure NullMode
  | .null => .ok settings.nullMode
  | v =>
    let known :=
      match v with
      | .text s => NullMode.ofName? s
      | _ => none
    match known with
    | some m => .ok m
    | none =>
      match v.shown with
      | .ok s => .error (.invalidNullMode s)
      | .error f => .error (.fault f)

/-- An engine over a registry. What is not given is taken from the settings. -/
def create (registry : Registry) (settings : Settings) (mode : Value) (cacheSize : Option Int) :
    Except Failure Engine := do
  let mode ← chooseMode settings mode
  let size := cacheSize.getD settings.parseCacheSize
  match ParseCache.ofCapacity size with
  | .ok cache => return ⟨⟨registry, mode, settings.emptyTextIsAbsent⟩, cache⟩
  | .error _ => throw (.invalidCacheSize size)

/-- The result of evaluating an expression against a record, and what there is to tell. A failure
without a code, other than too deep a nesting, is one of the call. -/
def settle (formula : String) (dependencies : List String) :
    Except Failure Value → Except Failure EvaluationResult × List Event
  | .ok v => (.ok (.computed formula dependencies v), [])
  | .error .nestingTooDeep =>
    (.ok (.failed dependencies Failure.nestingTooDeep.message "NESTING_TOO_DEEP"),
      [.nestingExceeded formula])
  | .error f =>
    match f.report? with
    | some r => (.ok (.failed dependencies r.message r.code), [.evaluationFailed formula r.message])
    | none => (.error f, [])

/-- An answer without anything else. -/
def Answer.done (e : Engine) (v : α) : Answer α := ⟨.ok v, e, [], [], []⟩

/-- Goes on with the value of an answer. -/
def Answer.andThen (a : Answer α) (f : Engine → α → Answer β) : Answer β :=
  match a.outcome with
  | .error e => ⟨.error e, a.engine, a.uses, a.events, a.handed⟩
  | .ok v =>
    let b := f a.engine v
    ⟨b.outcome, b.engine, a.uses ++ b.uses, a.events ++ b.events, a.handed ++ b.handed⟩

/-- Reads a formula. -/
def parse (e : Engine) (formula : Value) : Answer Parsed :=
  let a := ParseCache.parse e.cache formula
  ⟨a.outcome, { e with cache := a.cache }, [], a.events, a.handed⟩

/-- Hands out a new list of fields. -/
def handOut (e : Engine) (fields : List String) : Answer (List String) :=
  let (place, lists) := e.cache.lists.add fields
  ⟨.ok (lists.get place), { e with cache := { e.cache with lists := lists } }, [], [], [place]⟩

/-- Evaluates an expression against a record, for a formula text and a list of its fields. -/
def run (e : Engine) (expr : Expr) (record : Record) (formula : String)
    (dependencies : List String) : Answer EvaluationResult :=
  let run := e.evaluator.eval record expr
  let (outcome, events) := settle formula dependencies run.outcome
  ⟨outcome, e, run.uses, events, []⟩

/-- Evaluates an expression that a formula text stands for. -/
def evaluateExpr (e : Engine) (expr : Expr) (record : Record) (formula : String) :
    Answer EvaluationResult :=
  (e.handOut expr.fields).andThen fun e dependencies => e.run expr record formula dependencies

/-- The text of a formula, empty for what is no text. -/
def textOf : Value → String
  | .text s => s
  | _ => ""

/-- Evaluates what a formula reads as against a record. -/
def evaluateParsed (e : Engine) (r : ParseResult) (record : Record) (formula : String)
    (dependencies : List String) : Answer EvaluationResult :=
  match r.outcome with
  | .error message => .done e (.unreadable dependencies message)
  | .ok expr => e.run expr record formula dependencies

/-- Evaluates a formula against a record. -/
def evaluate (e : Engine) (formula : Value) (record : Record) : Answer EvaluationResult :=
  (e.parse formula).andThen fun e r =>
    e.evaluateParsed r.toParseResult record (textOf formula) r.dependencies

/-- Evaluates what a formula reads as against each of some records, each time with a list of its
fields of its own. -/
def evaluateEach (e : Engine) (r : Parsed) (formula : String) :
    List Record → Answer (List EvaluationResult)
  | [] => .done e []
  | record :: records =>
    (e.handOut r.dependencies).andThen fun e dependencies =>
      (e.evaluateParsed r.toParseResult record formula dependencies).andThen fun e result =>
        (e.evaluateEach r formula records).andThen fun e results => .done e (result :: results)

/-- Evaluates a formula, read once, against each of some records. -/
def evaluateRecords (e : Engine) (formula : Value) (records : List Record) :
    Answer (List EvaluationResult) :=
  (e.parse formula).andThen fun e r => e.evaluateEach r (textOf formula) records

/-- Whether a formula reads as an expression, and what is wrong if not. -/
def validate (e : Engine) (formula : Value) : Answer (Bool × Option String) :=
  (e.parse formula).andThen fun e r => .done e (r.isValid, r.error?)

/-- The fields that a formula reads, none for an invalid formula. -/
def references (e : Engine) (formula : Value) : Answer (List String) :=
  (e.parse formula).andThen fun e r => .done e r.dependencies

/-- Forgets the formulas read so far. -/
def clearCache (e : Engine) : Answer Unit := .done { e with cache := e.cache.clear } ()

/-- The engine after a caller has changed the list at a place. -/
def changeList (e : Engine) (place : Place) (fields : List String) : Engine :=
  { e with cache := { e.cache with lists := e.cache.lists.set place fields } }

/-- The names that formulas may call. -/
def functionNames (e : Engine) : List String := e.evaluator.registry.callNames

end Engine

end RecordCalc
