import RecordCalc.Proofs.Engine.Failures
import RecordCalc.Proofs.Formula.Meaning
import RecordCalc.Proofs.Formula.Parts

/-
  The fields that a formula depends on. Whatever the grammar derives from some tokens refers to the
  fields that stand in braces among them, in their order (`Formula.references_of_derives`), so the
  list that comes with a formula is that of the text, each field once (`Engine.dependencies_parse`).
-/

namespace RecordCalc

namespace Formula

/-- The field that a token refers to: what stands between the braces, without the blanks at its
ends. -/
def Token.field? : Token → Option String
  | field body => some (String.ofList (Text.trimChars body))
  | _ => none

/-- The fields that some tokens refer to, from left to right. -/
def fieldNames (ts : List Token) : List String := ts.filterMap Token.field?

section
variable {ts us : List Token} {e : Expr}

@[simp] theorem fieldNames_append : fieldNames (ts ++ us) = fieldNames ts ++ fieldNames us :=
  List.filterMap_append

@[simp] theorem fieldNames_symbol (s : Symbol) :
    fieldNames (.symbol s :: ts) = fieldNames ts := rfl

@[simp] theorem fieldNames_name (letters : List Char) :
    fieldNames (.name letters :: ts) = fieldNames ts := rfl

@[simp] theorem fieldNames_nil : fieldNames [] = [] := rfl

/-- Commas between lists of tokens refer to nothing. -/
theorem fieldNames_separated (lists : List (List Token)) :
    fieldNames (separated lists) = lists.flatMap fieldNames := by
  induction lists with
  | nil => rfl
  | cons ts lists ih =>
    cases lists with
    | nil => simp [separated_singleton]
    | cons us lists =>
      rw [separated_cons_cons, fieldNames_append, fieldNames_symbol, ih]
      rfl

theorem referencesOf_eq_flatMap (es : List Expr) :
    Expr.referencesOf es = es.flatMap Expr.references := by
  induction es with
  | nil => rfl
  | cons e es ih => rw [Expr.referencesOf, ih, List.flatMap_cons]

/-- What some tokens stand for refers to the fields among them, in their order. -/
theorem references_of_derives {level : Level} (h : Derives level ts e) :
    e.references = fieldNames ts := by
  induction h with
  | next _ _ ih => exact ih
  | left _ _ _ _ ihl ihr =>
    rw [Expr.references, ihl, ihr, fieldNames_append, fieldNames_symbol]
  | power _ _ ihl ihr =>
    rw [Expr.references, ihl, ihr, fieldNames_append, fieldNames_symbol]
  | unary _ _ ih => rw [Expr.references, ih, fieldNames_symbol]
  | numeral n => rfl
  | text quote body => rfl
  | field body => rfl
  | yes _ => rfl
  | no _ => rfl
  | @call letters args _ ih =>
    have hargs : (args.map (·.2)).flatMap Expr.references =
        (args.map (·.1)).flatMap fieldNames := by
      rw [List.flatMap_map, List.flatMap_map]
      exact List.flatMap_congr fun arg harg => ih arg harg
    rw [Expr.references, referencesOf_eq_flatMap, hargs, ← fieldNames_separated]
    simp
  | group _ ih => simp [ih]

end

/-- A formula that is read refers to the fields among its tokens, and can be cut into no others. -/
theorem references_of_parse {formula : String} {e : Expr} (h : parse formula = .ok e) :
    ∃ ts, (∀ ts', IsCut formula ts' ↔ ts' = ts) ∧ e.references = fieldNames ts := by
  obtain ⟨ts, hcut, hderives⟩ := means_of_parse h
  refine ⟨ts, fun ts' => ⟨fun hcut' => ?_, ?_⟩, references_of_derives hderives⟩
  · obtain ⟨-, hts⟩ := isCut_iff.1 hcut
    obtain ⟨-, hts'⟩ := isCut_iff.1 hcut'
    exact hts'.symm.trans hts
  · rintro rfl
    exact hcut

end Formula

namespace Engine

/-- At any time in a session, the list of fields that comes with a valid formula is that of the
references in braces among its tokens, each field once, in the order in which they first stand in
the text. It is what the walk over a stack finds in the expression, as it finds in every expression
the fields that a traversal from left to right meets. -/
theorem dependencies_parse {registry : Registry} {settings : Settings} {mode : Value}
    {size : Option Int} {engine : Engine} (h : create registry settings mode size = .ok engine)
    (moves : List Move) {formula : String} {p : Parsed} {e : Expr}
    (hparse :
      (((Session.start engine).afterAll moves).engine.parse (.text formula)).outcome = .ok p)
    (hvalid : p.outcome = .ok e) :
    (∃ ts, (∀ ts', Formula.IsCut formula ts' ↔ ts' = ts) ∧
      p.dependencies = (Formula.fieldNames ts).eraseDups) ∧
    p.dependencies = Expr.walk [] [e] ∧ ∀ e : Expr, Expr.walk [] [e] = e.references.eraseDups := by
  obtain ⟨m, hmode⟩ := exists_chooseMode h
  have hready := Ready.afterAll (s := Session.start engine) (ready_create hmode h) moves
  have hread : Parsed.ofFormula (.text formula) = .ok p :=
    (hready.parse (.text formula)).outcome.symm.trans hparse
  obtain ⟨s, hs, hexpr, hfields⟩ := Parsed.text_of_ofFormula hread hvalid
  cases hs
  obtain ⟨ts, hcut, hreferences⟩ := Formula.references_of_parse hexpr
  refine ⟨⟨ts, hcut, ?_⟩, ?_, Expr.walk_eq_fields⟩
  · rw [hfields, Expr.fields, hreferences]
  · rw [hfields, Expr.walk_eq_fields]

/-- Braces within a text are no reference, and neither blanks within braces nor a change of the list
by a caller show. -/
theorem dependencies_parse_braces :
    let formula := "'{X}' & { B } & SUM({A}, {B})"
    ∃ ts, Formula.IsCut formula ts ∧ (Formula.fieldNames ts).eraseDups = ["B", "A"] := by
  obtain ⟨e, hread⟩ : ∃ e : Expr, Parsed.ofFormula (.text "'{X}' & { B } & SUM({A}, {B})") =
      .ok ⟨⟨.ok e⟩, ["B", "A"]⟩ := ⟨_, rfl⟩
  intro formula
  have hmode : chooseMode ⟨"test", false, .info, false, .codd, true, 1000⟩ .null = .ok .codd := rfl
  obtain ⟨engine, hcreate⟩ := create_of_mode (.builtIn Registry.epoch) hmode
    (by decide : (1 : Int) ≤ 1000)
  let moves := [Move.ask (.references (.text formula)), .change 0 ["X"]]
  have hready := Ready.afterAll (s := Session.start engine) (ready_create hmode hcreate) moves
  have hparse := (hready.parse (.text formula)).outcome.trans hread
  obtain ⟨⟨ts, hcut, hdependencies⟩, -, -⟩ := dependencies_parse hcreate moves hparse rfl
  exact ⟨ts, (hcut ts).2 rfl, hdependencies.symm⟩

end Engine

end RecordCalc
