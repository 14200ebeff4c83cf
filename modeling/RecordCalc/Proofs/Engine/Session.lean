import RecordCalc.Proofs.Engine.Answers
import RecordCalc.Proofs.Operator.BuiltIn

/-
  Sessions: calls of one engine, one after the other, between which the caller may change the lists
  of fields that it got. At any time in a session the engine answers what a new engine would answer,
  and the three ways to evaluate agree (`ask_afterAll_eq_fresh`).
-/

namespace RecordCalc.Engine

/-! ## Calls and sessions -/

/-- What may be asked of an engine. -/
inductive Request
  | parse (formula : Value)
  | validate (formula : Value)
  | references (formula : Value)
  | evaluate (formula : Value) (record : Record)
  | evaluateRecords (formula : Value) (records : List Record)
  | evaluateExpr (expr : Expr) (record : Record) (formula : String)
  | clearCache

/-- What an engine replies. -/
inductive Reply
  | parsed (p : Parsed)
  | validity (isValid : Bool) (error : Option String)
  | fields (names : List String)
  | result (r : EvaluationResult)
  | results (rs : List EvaluationResult)
  | cleared

/-- Asks an engine. -/
def ask (e : Engine) : Request → Answer Reply
  | .parse formula => (e.parse formula).andThen fun e p => .done e (Reply.parsed p)
  | .validate formula => (e.validate formula).andThen fun e v => .done e (.validity v.1 v.2)
  | .references formula => (e.references formula).andThen fun e names => .done e (.fields names)
  | .evaluate formula record => (e.evaluate formula record).andThen fun e r => .done e (.result r)
  | .evaluateRecords formula records =>
    (e.evaluateRecords formula records).andThen fun e rs => .done e (.results rs)
  | .evaluateExpr expr record formula =>
    (e.evaluateExpr expr record formula).andThen fun e r => .done e (.result r)
  | .clearCache => e.clearCache.andThen fun e _ => .done e .cleared

/-- What a caller does. -/
inductive Move
  | ask (q : Request)
  | change (place : Place) (names : List String)

/-- An engine in use, and the places of the lists that its caller got. -/
structure Session where
  engine : Engine
  held : List Place

namespace Session

/-- The session of a caller that got nothing yet. -/
def start (e : Engine) : Session := ⟨e, []⟩

/-- The session after a move. A caller changes only lists that it got. -/
def after (s : Session) : Move → Session
  | .ask q => ⟨(s.engine.ask q).engine, s.held ++ (s.engine.ask q).handed⟩
  | .change place names =>
    if place ∈ s.held then { s with engine := s.engine.changeList place names } else s

/-- The session after some moves. -/
def afterAll (s : Session) (moves : List Move) : Session := moves.foldl after s

end Session

/-! ## Replies -/

/-- The reply to a request, without a memory. -/
def replyTo (ev : Evaluator) : Request → Except Failure Reply
  | .parse formula => do return Reply.parsed (← Parsed.ofFormula formula)
  | .validate formula => do
    let p ← Parsed.ofFormula formula
    return .validity p.isValid p.error?
  | .references formula => do return .fields (← Parsed.ofFormula formula).dependencies
  | .evaluate formula record => do
    let p ← Parsed.ofFormula formula
    return .result (← ev.resultOf (textOf formula) p record)
  | .evaluateRecords formula records => do
    let p ← Parsed.ofFormula formula
    return .results (← records.mapM (ev.resultOf (textOf formula) p))
  | .evaluateExpr expr record formula => do
    return .result (← ev.result formula expr.fields expr record)
  | .clearCache => .ok .cleared

variable {e : Engine} {ev : Evaluator} {held : List Place}

/-- A ready engine replies what there is to reply without a memory. -/
theorem Ready.ask (h : e.Ready ev held) (q : Request) :
    (e.ask q).Yields ev held (replyTo ev q) := by
  cases q with
  | parse formula => exact (h.parse formula).andThen fun _ _ p h => h.done (Reply.parsed p)
  | validate formula =>
    have hreply := (h.validate formula).andThen fun _ _ v h => h.done (Reply.validity v.1 v.2)
    rw [bind_assoc] at hreply
    exact hreply
  | references formula =>
    have hreply := (h.references formula).andThen fun _ _ names h => h.done (Reply.fields names)
    rw [bind_assoc] at hreply
    exact hreply
  | evaluate formula record =>
    have hreply := (h.evaluate formula record).andThen fun _ _ r h => h.done (Reply.result r)
    rw [bind_assoc] at hreply
    exact hreply
  | evaluateRecords formula records =>
    have hreply :=
      (h.evaluateRecords formula records).andThen fun _ _ rs h => h.done (Reply.results rs)
    rw [bind_assoc] at hreply
    exact hreply
  | evaluateExpr expr record formula =>
    exact (h.evaluateExpr expr record formula).andThen fun _ _ r h => h.done (Reply.result r)
  | clearCache => exact h.clearCache.andThen fun _ _ _ h => h.done Reply.cleared

/-! ## Whole sessions -/

/-- An engine stays ready when its caller makes a move. -/
theorem Ready.after {s : Session} (h : s.engine.Ready ev s.held) (move : Move) :
    (s.after move).engine.Ready ev (s.after move).held := by
  cases move with
  | ask q => exact (h.ask q).ready
  | change place names =>
    unfold Session.after
    dsimp only
    split
    · next hplace => exact h.changeList hplace names
    · exact h

theorem Ready.afterAll {s : Session} (h : s.engine.Ready ev s.held) (moves : List Move) :
    (s.afterAll moves).engine.Ready ev (s.afterAll moves).held := by
  induction moves generalizing s with
  | nil => exact h
  | cons move moves ih => exact ih (h.after move)

theorem create_of_mode (registry : Registry) {settings : Settings} {mode : Value} {m : NullMode}
    (hmode : chooseMode settings mode = .ok m) {size : Int} (hsize : 1 ≤ size) :
    ∃ e, create registry settings mode (some size) = .ok e := by
  unfold create ParseCache.ofCapacity Cache.ofCapacity
  simp only [hmode, Option.getD_some, dif_pos hsize, bind, Except.bind, pure, Except.pure]
  exact ⟨_, rfl⟩

/-- Each of some records evaluated on its own gives what they give together. -/
theorem Ready.evaluateRecords_eq (h : e.Ready ev held) {formula : Value} {p : Parsed}
    (hp : (e.parse formula).outcome = .ok p) (records : List Record) :
    (e.evaluateRecords formula records).outcome =
      records.mapM fun record => (e.evaluate formula record).outcome := by
  have hparse : Parsed.ofFormula formula = .ok p := (h.parse formula).outcome.symm.trans hp
  have heach : (fun record => (e.evaluate formula record).outcome) =
      ev.resultOf (textOf formula) p := by
    funext record
    rw [(h.evaluate formula record).outcome, hparse]
    rfl
  rw [(h.evaluateRecords formula records).outcome, hparse, heach]
  rfl

/-- A valid formula evaluates like the expression that it reads as. -/
theorem Ready.evaluate_eq_evaluateExpr (h : e.Ready ev held) {formula : Value} {p : Parsed}
    (hp : (e.parse formula).outcome = .ok p) {expr : Expr} (hexpr : p.outcome = .ok expr)
    (record : Record) :
    (e.evaluate formula record).outcome =
      (e.evaluateExpr expr record (textOf formula)).outcome := by
  have hparse : Parsed.ofFormula formula = .ok p := (h.parse formula).outcome.symm.trans hp
  obtain ⟨-, -, -, hfields⟩ := Parsed.text_of_ofFormula hparse hexpr
  rw [(h.evaluate formula record).outcome, (h.evaluateExpr expr record (textOf formula)).outcome,
    hparse, ← hfields]
  change ev.resultOf (textOf formula) p record = _
  rw [Evaluator.resultOf, hexpr]

/-- Memory is invisible. At any time in a session an engine answers whatever it is asked as a new
engine does, be there room for few formulas or many. Records evaluated together give what they give
one by one, and a valid formula gives what the expression gives that it reads as. -/
theorem ask_afterAll_eq_fresh {registry : Registry} {settings : Settings} {mode : Value}
    {m : NullMode} (hmode : chooseMode settings mode = .ok m) {size size' : Int}
    (hsize : 1 ≤ size) (hsize' : 1 ≤ size') :
    ∃ old new, create registry settings mode (some size) = .ok old ∧
      create registry settings mode (some size') = .ok new ∧
      ∀ moves : List Move,
        let e := ((Session.start old).afterAll moves).engine
        (∀ q, (e.ask q).outcome = (new.ask q).outcome) ∧
        ∀ formula p, (e.parse formula).outcome = .ok p →
          (∀ records, (e.evaluateRecords formula records).outcome =
            records.mapM fun record => (e.evaluate formula record).outcome) ∧
          ∀ expr, p.outcome = .ok expr → ∀ record, (e.evaluate formula record).outcome =
            (e.evaluateExpr expr record (textOf formula)).outcome := by
  obtain ⟨old, hold⟩ := create_of_mode registry hmode hsize
  obtain ⟨new, hnew⟩ := create_of_mode registry hmode hsize'
  refine ⟨old, new, hold, hnew, fun moves => ?_⟩
  have hready := Ready.afterAll (s := Session.start old) (ready_create hmode hold) moves
  refine ⟨fun q => ?_, fun formula p hp => ⟨?_, fun expr hexpr => ?_⟩⟩
  · rw [(hready.ask q).outcome, ((ready_create hmode hnew).ask q).outcome]
  · exact hready.evaluateRecords_eq hp
  · exact hready.evaluate_eq_evaluateExpr hp hexpr

/-- With room for one formula, `{A} + {B}` reads the same fields after the caller has changed the
lists that it got, whether the formula is still in the memory or was put out by another. -/
theorem ask_afterAll_eq_fresh_changed :
    ∃ old, create (.builtIn Registry.epoch) ⟨"test", false, .info, false, .codd, true, 1000⟩
        .null (some 1) = .ok old ∧
      let formula := Value.text "{A} + {B}"
      let kept := [Move.ask (.references formula), .change 0 ["X"]]
      let reply moves :=
        (((Session.start old).afterAll moves).engine.ask (.references formula)).outcome
      reply kept = .ok (.fields ["A", "B"]) ∧
        reply (kept ++ [.ask (.parse (.text "1"))]) = .ok (.fields ["A", "B"]) := by
  have hmode : chooseMode ⟨"test", false, .info, false, .codd, true, 1000⟩ .null = .ok .codd := rfl
  obtain ⟨old, new, hold, hnew, h⟩ := ask_afterAll_eq_fresh hmode (by decide : (1 : Int) ≤ 1)
    (by decide : (1 : Int) ≤ 1000)
  have hfresh : (new.ask (.references (.text "{A} + {B}"))).outcome = .ok (.fields ["A", "B"]) := by
    cases hnew
    rfl
  exact ⟨old, hold, ((h _).1 _).trans hfresh, ((h _).1 _).trans hfresh⟩

end RecordCalc.Engine
