import RecordCalc.Proofs.Dependency.Order
import RecordCalc.Proofs.Formula.Parts

/-
  Graphs built from formulas alone. When every formula of a sequence is accepted, the graph has just
  the readings of the latest formula of each field (`Records`). What a change of a field without a
  formula affects is then ordered so that each rest of the order has all readers of its fields
  (`Records.closedUnderReaders_order`).
-/

namespace RecordCalc.Dependency.Graph

open Relation (ReflTransGen)

/-- The graph of some formulas, registered in turn; words for why the first of them that is not
accepted is turned away. -/
def ofFormulas (fs : List (String × ParseResult)) : Except String Graph :=
  fs.foldlM (fun g f => g.registerFormula f.1 f.2) empty

/-- The latest formula of a field. -/
def latest? (fs : List (String × ParseResult)) (field : String) : Option Expr :=
  (fs.reverse.find? (·.1 == field)).bind (·.2.expr?)

/-- The graph has no cycle, its maps are in sync, and every field reads what its formula reads. -/
structure Records (g : Graph) (formula : String → Option Expr) : Prop where
  inSync : g.InSync
  distinct : g.Distinct
  acyclic : g.Acyclic
  reads_iff : ∀ f x, g.Reads f x ↔ ∃ e, formula f = some e ∧ x ∈ e.fields

theorem records_empty : empty.Records fun _ => none where
  inSync := ⟨by simp [empty, FieldMap.get], FieldMap.noEmpty_nil⟩
  distinct := distinct_empty
  acyclic := acyclic_empty
  reads_iff := by simp [Reads, empty, FieldMap.get]

theorem latest?_concat (fs : List (String × ParseResult)) (field : String) (parsed : ParseResult)
    (f : String) :
    latest? (fs ++ [(field, parsed)]) f = if f = field then parsed.expr? else latest? fs f := by
  by_cases hf : f = field
  · simp [latest?, hf]
  · simp [latest?, hf, Ne.symm hf]

theorem records_registerFormula {g g' : Graph} {formula : String → Option Expr} {field : String}
    {parsed : ParseResult} (hg : g.Records formula)
    (h : g.registerFormula field parsed = .ok g') :
    g'.Records fun f => if f = field then parsed.expr? else formula f := by
  obtain ⟨e | e⟩ := parsed
  · cases h
  · unfold registerFormula register at h
    dsimp only at h
    cases hadd : g.add? field e.fields with
    | none =>
      rw [hadd] at h
      cases h
    | some g'' =>
      rw [hadd] at h
      cases h
      refine ⟨inSync_add hg.inSync hadd, distinct_add hg.distinct hadd,
        acyclic_add hg.distinct.requires hg.acyclic hadd, fun f x => ?_⟩
      rw [reads_add hadd]
      by_cases hf : f = field
      · simp [hf, ParseResult.expr?, Except.toOption]
      · simp [hf, hg.reads_iff]

theorem records_ofFormulas {fs : List (String × ParseResult)} {g : Graph}
    (h : ofFormulas fs = .ok g) : g.Records (latest? fs) := by
  induction fs using List.reverseRecOn generalizing g with
  | nil =>
    cases h
    exact records_empty
  | append_singleton fs f ih =>
    unfold ofFormulas at h ih
    rw [List.foldlM_append] at h
    cases hbefore : fs.foldlM (fun g f => g.registerFormula f.1 f.2) empty with
    | error e =>
      rw [hbefore] at h
      cases h
    | ok g₀ =>
      rw [hbefore] at h
      have hlast : g₀.registerFormula f.1 f.2 = .ok g := by
        rw [← h]
        exact (bind_pure _).symm
      have hrecords := records_registerFormula (ih hbefore) hlast
      rw [← funext (latest?_concat fs f.1 f.2)] at hrecords
      exact hrecords

/-! ## What a change affects -/

/-- Every field whose formula reads one of the fields is one of them. -/
def ClosedUnderReaders (formula : String → Option Expr) (fields : List String) : Prop :=
  ∀ f e, formula f = some e → ∀ z ∈ e.fields, z ∈ fields → f ∈ fields

section
variable {g : Graph} {formula : String → Option Expr} {x f : String} {e : Expr}

theorem Records.leads_iff (h : g.Records formula) (y z : String) :
    Leads g.dependents.get y z ↔ ∃ e, formula z = some e ∧ y ∈ e.fields :=
  (h.inSync.mem_iff y z).trans (h.reads_iff z y)

theorem Records.not_mem_fields (h : g.Records formula) (he : formula f = some e) :
    f ∉ e.fields :=
  fun hf => h.acyclic f (.single ((h.reads_iff f f).2 ⟨e, he, hf⟩))

/-- Only fields with a formula are affected. -/
theorem Records.formula_of_affected (h : g.Records formula) (hf : f ∈ g.affected x) :
    ∃ e, formula f = some e := by
  obtain ⟨hne, hreach⟩ := (mem_affected_iff h.distinct.dependents x f).1 hf
  rcases ReflTransGen.cases_tail hreach with heq | ⟨y, -, hy⟩
  · exact absurd heq hne
  · obtain ⟨e, he, -⟩ := (h.leads_iff y f).1 hy
    exact ⟨e, he⟩

theorem Records.affected_of_reads (h : g.Records formula) (hx : formula x = none)
    (he : formula f = some e) {z : String} (hz : z ∈ e.fields)
    (hzx : z = x ∨ z ∈ g.affected x) : f ∈ g.affected x := by
  have hreach : ReflTransGen (Leads g.dependents.get) x z := by
    rcases hzx with rfl | hz
    · exact .refl
    · exact ((mem_affected_iff h.distinct.dependents x z).1 hz).2
  refine (mem_affected_iff h.distinct.dependents x f).2 ⟨?_, hreach.tail ?_⟩
  · rintro rfl
    rw [hx] at he
    cases he
  · exact (h.leads_iff z f).2 ⟨e, he, hz⟩

/-- What is left of the order of the affected fields has at any time all readers of its fields. -/
theorem Records.closedUnderReaders_order (h : g.Records formula) (hx : formula x = none)
    {left : List String} (hleft : left <:+ g.order (g.affected x)) :
    ClosedUnderReaders formula left := by
  intro f e he z hz hzl
  obtain ⟨hnodup, hmem, hafter⟩ :=
    order_of_acyclic h.distinct h.inSync.converse h.acyclic (g.affected x)
  obtain ⟨done, hdone⟩ := hleft
  have hza : z ∈ g.affected x := (hmem z).1 (hdone ▸ List.mem_append_right _ hzl)
  have hf : f ∈ g.order (g.affected x) :=
    (hmem f).2 (h.affected_of_reads hx he hz (Or.inr hza))
  rw [← hdone, List.mem_append] at hf
  refine hf.resolve_left fun hfd => ?_
  -- all that a field in front reads stands in front of it
  obtain ⟨l, r, rfl⟩ := List.append_of_mem hfd
  have hzd : z ∈ l := hafter l f (r ++ left) (by simp [← hdone])
    z ((h.reads_iff f z).2 ⟨e, he, hz⟩) hza
  rw [← hdone] at hnodup
  exact (List.disjoint_of_nodup_append hnodup) (List.mem_append_left _ hzd) hzl

end

end RecordCalc.Dependency.Graph
