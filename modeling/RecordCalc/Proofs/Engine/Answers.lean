import RecordCalc.Engine.Basic
import RecordCalc.Proofs.Cache

/-
  What engines answer. The memory of an engine is sound while every formula that it keeps reads as
  the expression kept with it, and the list kept with it is that of its fields, at a place that was
  not handed out. Every call keeps the memory sound, and its outcome is that of reading and
  evaluating without any memory (`Answer.Yields`).
-/

namespace RecordCalc

/-! ## Lists of fields -/

namespace FieldLists

theorem get_add (l : FieldLists) (names : List String) :
    (l.add names).2.get (l.add names).1 = names := by
  simp [get, add]

theorem get_add_of_lt {l : FieldLists} {place : Place} (h : place < l.lists.length)
    (names : List String) : (l.add names).2.get place = l.get place := by
  simp [get, add, List.getElem?_append_left h]

theorem get_set_of_ne {l : FieldLists} {place other : Place} (h : place ≠ other)
    (names : List String) : (l.set other names).get place = l.get place := by
  simp [get, set, List.getElem?_set_ne h.symm]

theorem length_add (l : FieldLists) (names : List String) :
    (l.add names).2.lists.length = l.lists.length + 1 := by
  simp [add]

theorem length_set (l : FieldLists) (place : Place) (names : List String) :
    (l.set place names).lists.length = l.lists.length := by
  simp [set]

end FieldLists

/-! ## Reading with a memory -/

/-- What a formula text reads as, without a memory. -/
def Parsed.ofText (s : String) : Except Failure Parsed :=
  match Formula.parse s with
  | .ok e => .ok ⟨⟨.ok e⟩, e.fields⟩
  | .error f => if f.isKind .formulaSyntax then .ok ⟨⟨.error f.message⟩, []⟩ else .error f

/-- What a formula reads as, without a memory. -/
def Parsed.ofFormula : Value → Except Failure Parsed
  | .text s => ofText s
  | _ => .ok ⟨⟨.error "Formula is required and must be a string"⟩, []⟩

/-- A valid formula is a text that reads as an expression, and comes with the fields of it. -/
theorem Parsed.text_of_ofFormula {formula : Value} {p : Parsed} (h : ofFormula formula = .ok p)
    {e : Expr} (he : p.outcome = .ok e) :
    ∃ s, formula = .text s ∧ Formula.parse s = .ok e ∧ p.dependencies = e.fields := by
  cases formula with
  | text s =>
    simp only [ofFormula, ofText] at h
    split at h
    · next hparse =>
      cases h
      cases he
      exact ⟨s, rfl, hparse, rfl⟩
    · split at h
      · cases h
        cases he
      · cases h
  | _ =>
    cases h
    cases he

/-- What is kept of a formula is right, and its list of fields is at nobody else's place. -/
structure Kept.Sound (lists : FieldLists) (held : List Place) (formula : String) (k : Kept) :
    Prop where
  reads : Formula.parse formula = .ok k.expr
  fields : lists.get k.fields = k.expr.fields
  placed : k.fields < lists.lists.length
  own : k.fields ∉ held

/-- All that is kept is right, where the places in `held` were handed out. -/
structure ParseCache.Sound (c : ParseCache) (held : List Place) : Prop where
  kept : ∀ entry ∈ c.formulas.entries, entry.2.Sound c.lists held entry.1
  placed : ∀ place ∈ held, place < c.lists.lists.length

/-- The answer has the given outcome and leaves a sound memory. -/
structure ParseCache.Answer.Yields (a : ParseCache.Answer) (held : List Place)
    (outcome : Except Failure Parsed) : Prop where
  outcome : a.outcome = outcome
  sound : a.cache.Sound (held ++ a.handed)

section
variable {lists : FieldLists} {held : List Place} {formula : String} {k : Kept} {e : Expr}
  {c : ParseCache} {formulas : Cache String Kept}

theorem FieldLists.lt_add (h : ∀ place ∈ held, place < lists.lists.length) (names : List String) :
    ∀ place ∈ held ++ [(lists.add names).1], place < (lists.add names).2.lists.length := by
  intro place hplace
  rw [FieldLists.length_add]
  rcases List.mem_append.1 hplace with hplace | hplace
  · exact Nat.lt_succ_of_lt (h place hplace)
  · rw [List.mem_singleton.1 hplace]
    exact Nat.lt_succ_self _

/-- What is kept stays right when a new list is handed out. -/
theorem Kept.Sound.add (h : k.Sound lists held formula) (names : List String) :
    k.Sound (lists.add names).2 (held ++ [(lists.add names).1]) formula where
  reads := h.reads
  fields := by rw [FieldLists.get_add_of_lt h.placed, h.fields]
  placed := by
    rw [FieldLists.length_add]
    exact Nat.lt_succ_of_lt h.placed
  own := by
    intro hmem
    rcases List.mem_append.1 hmem with hmem | hmem
    · exact h.own hmem
    · exact Nat.ne_of_lt h.placed (List.mem_singleton.1 hmem)

/-- What is kept with a new list that is not handed out is right. -/
theorem Kept.sound_new (hread : Formula.parse formula = .ok e)
    (hheld : ∀ place ∈ held, place < lists.lists.length) :
    Kept.Sound (lists.add e.fields).2 held formula ⟨e, (lists.add e.fields).1⟩ where
  reads := hread
  fields := FieldLists.get_add lists e.fields
  placed := by
    rw [FieldLists.length_add]
    exact Nat.lt_succ_self _
  own hmem := Nat.lt_irrefl _ (hheld _ hmem)

namespace ParseCache

/-- A memory stays sound when some of its entries go. -/
theorem Sound.drop (h : c.Sound held)
    (hformulas : ∀ entry ∈ formulas.entries, entry ∈ c.formulas.entries) :
    Sound ⟨formulas, c.lists⟩ held :=
  ⟨fun entry hentry => h.kept entry (hformulas entry hentry), h.placed⟩

/-- A memory stays sound when a new list is handed out. -/
theorem Sound.add (h : c.Sound held) (names : List String) :
    Sound { c with lists := (c.lists.add names).2 } (held ++ [(c.lists.add names).1]) :=
  ⟨fun entry hentry => (h.kept entry hentry).add names, FieldLists.lt_add h.placed names⟩

theorem Sound.of_subset {held' : List Place} (h : c.Sound held)
    (hheld : ∀ place ∈ held', place ∈ held) : c.Sound held' where
  kept entry hentry :=
    let hk := h.kept entry hentry
    ⟨hk.reads, hk.fields, hk.placed, fun hmem => hk.own (hheld _ hmem)⟩
  placed place hplace := h.placed place (hheld place hplace)

/-- A memory stays sound when a formula is kept with a new list of its fields. -/
theorem Sound.put (h : c.Sound held) (hread : Formula.parse formula = .ok e) :
    Sound ⟨(c.formulas.put formula ⟨e, (c.lists.add e.fields).1⟩).2, (c.lists.add e.fields).2⟩
      held where
  kept entry hentry := by
    rcases Cache.mem_of_mem_put hentry with hentry | rfl
    · have hgrown := (h.add e.fields).of_subset fun _ => List.mem_append_left _
      exact hgrown.kept entry hentry
    · exact Kept.sound_new hread h.placed
  placed place hplace := FieldLists.lt_add h.placed e.fields place (List.mem_append_left _ hplace)

/-- A memory stays sound when a caller changes a list that was handed out. -/
theorem Sound.set (h : c.Sound held) {place : Place} (hplace : place ∈ held)
    (names : List String) : Sound { c with lists := c.lists.set place names } held where
  kept entry hentry := by
    have hk := h.kept entry hentry
    have hne : entry.2.fields ≠ place := by
      rintro rfl
      exact hk.own hplace
    refine ⟨hk.reads, ?_, ?_, hk.own⟩
    · rw [FieldLists.get_set_of_ne hne, hk.fields]
    · rw [FieldLists.length_set]
      exact hk.placed
  placed other hother := by
    rw [FieldLists.length_set]
    exact h.placed other hother

theorem handOut_yields (h : c.Sound held) (r : ParseResult) (names : List String)
    (events : List Log.Event) : (c.handOut r names events).Yields held (.ok ⟨r, names⟩) where
  outcome := by
    unfold handOut
    dsimp only
    rw [FieldLists.get_add]
  sound := h.add names

theorem readAnew_yields (h : c.Sound held) (formula : String) :
    (c.readAnew formula).Yields held (Parsed.ofText formula) := by
  unfold readAnew Parsed.ofText
  cases hread : Formula.parse formula with
  | error f =>
    dsimp only
    split
    · exact handOut_yields h _ _ _
    · exact ⟨rfl, by simpa using h⟩
  | ok e =>
    have hlist : (c.lists.add e.fields).1 < (c.lists.add e.fields).2.lists.length :=
      FieldLists.lt_add h.placed e.fields _ (List.mem_append_right _ List.mem_cons_self)
    simp only [FieldLists.get_add, FieldLists.get_add_of_lt hlist]
    exact ⟨rfl, (h.add e.fields).put hread⟩

/-- Reading with a sound memory gives what reading without one gives. -/
theorem parse_yields (h : c.Sound held) (formula : Value) :
    (c.parse formula).Yields held (Parsed.ofFormula formula) := by
  cases formula with
  | text s =>
    have hdrop : Sound ⟨(c.formulas.get s).2, c.lists⟩ held :=
      h.drop fun entry => Cache.mem_of_mem_get
    have hpeek := Cache.get_fst c.formulas s
    dsimp only [parse, Parsed.ofFormula]
    generalize c.formulas.get s = got at hdrop hpeek
    obtain ⟨found, formulas⟩ := got
    cases found with
    | none => exact readAnew_yields hdrop s
    | some kept =>
      have hkept := h.kept (s, kept) (Cache.mem_of_peek? hpeek.symm)
      have hfields : c.lists.get kept.fields = kept.expr.fields := hkept.fields
      dsimp only
      rw [hfields, Parsed.ofText, hkept.reads]
      exact handOut_yields hdrop _ _ _
  | _ => exact handOut_yields h _ _ _

theorem sound_ofCapacity {size : Int} {c : ParseCache} (h : ofCapacity size = .ok c) :
    c.Sound [] := by
  unfold ofCapacity Cache.ofCapacity at h
  split at h
  · cases h
    constructor
    · intro entry hentry
      cases hentry
    · intro place hplace
      cases hplace
  · cases h

end ParseCache

end

/-! ## Answers of engines -/

/-- The result of an expression against a record, without a memory, for a formula text and a list of
its fields. -/
def Evaluator.result (ev : Evaluator) (formula : String) (dependencies : List String) (e : Expr)
    (record : Record) : Except Failure EvaluationResult :=
  (Engine.settle formula dependencies (ev.eval record e).outcome).1

/-- The result of what a formula reads as, without a memory. -/
def Evaluator.resultOf (ev : Evaluator) (formula : String) (p : Parsed) (record : Record) :
    Except Failure EvaluationResult :=
  match p.outcome with
  | .error message => .ok (.unreadable p.dependencies message)
  | .ok e => ev.result formula p.dependencies e record

namespace Engine

/-- The engine has the given evaluator and a sound memory. -/
structure Ready (e : Engine) (ev : Evaluator) (held : List Place) : Prop where
  evaluator : e.evaluator = ev
  sound : e.cache.Sound held

/-- The answer has the given outcome and leaves an engine that is ready. -/
structure Answer.Yields {α : Type} (a : Answer α) (ev : Evaluator) (held : List Place)
    (outcome : Except Failure α) : Prop where
  outcome : a.outcome = outcome
  ready : a.engine.Ready ev (held ++ a.handed)

section
variable {α β : Type} {e : Engine} {ev : Evaluator} {held : List Place}

theorem ready_create {registry : Registry} {settings : Settings} {mode : Value}
    {size : Option Int} {m : NullMode} (hmode : chooseMode settings mode = .ok m)
    (h : create registry settings mode size = .ok e) :
    e.Ready ⟨registry, m, settings.emptyTextIsAbsent⟩ [] := by
  unfold create at h
  rw [hmode] at h
  cases hcache : ParseCache.ofCapacity (size.getD settings.parseCacheSize) with
  | error f =>
    simp only [hcache, bind, Except.bind] at h
    cases h
  | ok cache =>
    simp only [hcache, bind, Except.bind] at h
    cases h
    exact ⟨rfl, ParseCache.sound_ofCapacity hcache⟩

theorem Answer.Yields.andThen {a : Answer α} {f : Engine → α → Answer β} {r : Except Failure α}
    {g : α → Except Failure β} (h : a.Yields ev held r)
    (hf : ∀ e held' v, e.Ready ev held' → (f e v).Yields ev held' (g v)) :
    (a.andThen f).Yields ev held (r >>= g) := by
  obtain ⟨outcome, engine, uses, events, handed⟩ := a
  obtain ⟨rfl, hready⟩ := h
  cases outcome with
  | error failure => exact ⟨rfl, hready⟩
  | ok v =>
    have hnext := hf engine (held ++ handed) v hready
    refine ⟨hnext.outcome, ?_⟩
    have h := hnext.ready
    rw [List.append_assoc] at h
    exact h

theorem Ready.done (h : e.Ready ev held) (v : α) : (Answer.done e v).Yields ev held (.ok v) where
  outcome := rfl
  ready := by
    rw [Answer.done, List.append_nil]
    exact h

theorem Ready.parse (h : e.Ready ev held) (formula : Value) :
    (e.parse formula).Yields ev held (Parsed.ofFormula formula) :=
  have hparse := ParseCache.parse_yields h.sound formula
  ⟨hparse.outcome, h.evaluator, hparse.sound⟩

theorem Ready.handOut (h : e.Ready ev held) (names : List String) :
    (e.handOut names).Yields ev held (.ok names) where
  outcome := congrArg Except.ok (FieldLists.get_add e.cache.lists names)
  ready := ⟨h.evaluator, h.sound.add names⟩

theorem Ready.run (h : e.Ready ev held) (expr : Expr) (record : Record) (formula : String)
    (dependencies : List String) :
    (e.run expr record formula dependencies).Yields ev held
      (ev.result formula dependencies expr record) where
  outcome := by
    rw [Evaluator.result, ← h.evaluator]
    rfl
  ready := by
    have hhanded : held ++ (e.run expr record formula dependencies).handed = held :=
      List.append_nil held
    rw [hhanded]
    exact h

theorem Ready.evaluateExpr (h : e.Ready ev held) (expr : Expr) (record : Record)
    (formula : String) :
    (e.evaluateExpr expr record formula).Yields ev held
      (ev.result formula expr.fields expr record) :=
  (h.handOut expr.fields).andThen fun _ _ dependencies h => h.run expr record formula dependencies

theorem Ready.evaluateParsed (h : e.Ready ev held) (r : ParseResult) (record : Record)
    (formula : String) (dependencies : List String) :
    (e.evaluateParsed r record formula dependencies).Yields ev held
      (ev.resultOf formula ⟨r, dependencies⟩ record) := by
  unfold Engine.evaluateParsed Evaluator.resultOf
  cases r.outcome with
  | error message => exact h.done _
  | ok expr => exact h.run expr record formula dependencies

theorem Ready.evaluate (h : e.Ready ev held) (formula : Value) (record : Record) :
    (e.evaluate formula record).Yields ev held
      (Parsed.ofFormula formula >>= fun p => ev.resultOf (textOf formula) p record) :=
  (h.parse formula).andThen fun _ _ p h =>
    h.evaluateParsed p.toParseResult record (textOf formula) p.dependencies

theorem Ready.evaluateEach (h : e.Ready ev held) (p : Parsed) (formula : String)
    (records : List Record) :
    (e.evaluateEach p formula records).Yields ev held
      (records.mapM (ev.resultOf formula p)) := by
  induction records generalizing e held with
  | nil => exact h.done []
  | cons record records ih =>
    rw [List.mapM_cons]
    exact (h.handOut p.dependencies).andThen fun _ _ dependencies h =>
      (h.evaluateParsed p.toParseResult record formula dependencies).andThen fun _ _ result h =>
        (ih h).andThen fun _ _ results h => h.done (result :: results)

theorem Ready.evaluateRecords (h : e.Ready ev held) (formula : Value) (records : List Record) :
    (e.evaluateRecords formula records).Yields ev held
      (Parsed.ofFormula formula >>= fun p => records.mapM (ev.resultOf (textOf formula) p)) :=
  (h.parse formula).andThen fun _ _ p h => h.evaluateEach p (textOf formula) records

theorem Ready.validate (h : e.Ready ev held) (formula : Value) :
    (e.validate formula).Yields ev held
      (Parsed.ofFormula formula >>= fun p => .ok (p.isValid, p.error?)) :=
  (h.parse formula).andThen fun _ _ p h => h.done (p.isValid, p.error?)

theorem Ready.references (h : e.Ready ev held) (formula : Value) :
    (e.references formula).Yields ev held
      (Parsed.ofFormula formula >>= fun p => .ok p.dependencies) :=
  (h.parse formula).andThen fun _ _ p h => h.done p.dependencies

theorem Ready.clearCache (h : e.Ready ev held) : (e.clearCache).Yields ev held (.ok ()) :=
  have hclear : Ready { e with cache := e.cache.clear } ev held :=
    ⟨h.evaluator, h.sound.drop fun _ hentry => nomatch hentry⟩
  hclear.done ()

theorem Ready.changeList (h : e.Ready ev held) {place : Place} (hplace : place ∈ held)
    (names : List String) : (e.changeList place names).Ready ev held :=
  ⟨h.evaluator, h.sound.set hplace names⟩

end

end Engine

end RecordCalc
