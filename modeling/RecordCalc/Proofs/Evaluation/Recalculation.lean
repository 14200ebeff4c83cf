import RecordCalc.Proofs.Dependency.Formulas
import RecordCalc.Proofs.Evaluation.Reading

/-
  Recalculation after a change. A field is settled when the record holds the value of its formula.
  Writing another field leaves it settled unless its formula reads that field (`Settled.set`), so
  the affected fields are settled one after the other as the order of the graph has them
  (`settled_recalculate`).
-/

namespace RecordCalc

open Calendar (DateTime)
open Dependency (Graph)

/-- The record with a value for a field, in place when it has the field, else at the end. -/
def Record.set (r : Record) (name : String) (v : Value) : Record := Value.insertEntry r name v

theorem Value.lookup_cons (n : String) (w : Value) (r : Record) (name : String) :
    Value.lookup ((n, w) :: r) name = if name = n then some w else Value.lookup r name := by
  by_cases h : name = n
  · simp [Value.lookup, h]
  · simp [Value.lookup, h, Ne.symm h]

theorem Record.lookup_set (r : Record) (name : String) (v : Value) (other : String) :
    Value.lookup (r.set name v) other = if other = name then some v else Value.lookup r other := by
  unfold Record.set
  induction r with
  | nil => rw [Value.insertEntry, Value.lookup_cons]
  | cons entry r ih =>
    obtain ⟨n, w⟩ := entry
    rw [Value.insertEntry, Value.lookup_cons n w r]
    by_cases hn : n = name
    · rw [if_pos (beq_iff_eq.2 hn), Value.lookup_cons, hn]
      by_cases ho : other = name <;> simp [ho]
    · rw [if_neg (by simpa using hn), Value.lookup_cons, ih]
      by_cases ho : other = n
      · simp [ho, hn]
      · simp [ho]

theorem Record.get_set_of_ne (r : Record) {name other : String} (h : other ≠ name) (v : Value) :
    (r.set name v).get other = r.get other := by
  rw [Record.get, Record.get, lookup_set, if_neg h]

namespace Evaluator

/-- The record holds the value of the formula of the field, if it has one. -/
def Settled (ev : Evaluator) (formula : String → Option Expr) (r : Record) (f : String) : Prop :=
  ∀ e, formula f = some e → ∃ v, (ev.eval r e).outcome = .ok v ∧ Value.lookup r f = some v

/-- Evaluates the formulas of some fields in turn and writes each value into the record; a field
without a formula is passed over, but no affected field is without one. The evaluators are those of
the moments from now on. -/
def recalculate (ev : Nat → Evaluator) (formula : String → Option Expr) :
    List String → Record → Except Failure Record
  | [], r => .ok r
  | f :: fs, r =>
    match formula f with
    | none => recalculate (fun n => ev (n + 1)) formula fs r
    | some e => do
      let v ← ((ev 0).eval r e).outcome
      recalculate (fun n => ev (n + 1)) formula fs (r.set f v)

section
variable {ev ev' : Evaluator} {formula : String → Option Expr} {r r' : Record} {f name : String}
  {e : Expr} {v : Value}

theorem eval_set_of_not_mem (he : e.IsTimeless) (hname : name ∉ e.fields) (v : Value) :
    ev.eval (r.set name v) e = ev.eval r e := by
  refine (SameBeyondClock.refl ev).evalWithin levelLimit he fun other hother => ?_
  refine Record.get_set_of_ne r ?_ v
  rintro rfl
  exact hname (Expr.mem_fields.2 hother)

/-- A field stays settled when another field that its formula does not read is written. -/
theorem Settled.set (h : ev.Settled formula r f) (htimeless : ∀ e, formula f = some e → e.IsTimeless)
    (hf : f ≠ name) (hname : ∀ e, formula f = some e → name ∉ e.fields) (v : Value) :
    ev.Settled formula (r.set name v) f := by
  intro e he
  obtain ⟨w, hw, hlookup⟩ := h e he
  refine ⟨w, ?_, ?_⟩
  · rw [eval_set_of_not_mem (htimeless e he) (hname e he), hw]
  · rw [Record.lookup_set, if_neg hf, hlookup]

/-- A field is settled once the value of its formula is written. -/
theorem settled_set (he : formula f = some e) (htimeless : e.IsTimeless) (hf : f ∉ e.fields)
    (hv : (ev.eval r e).outcome = .ok v) : ev.Settled formula (r.set f v) f := by
  intro e' he'
  cases he.symm.trans he'
  refine ⟨v, ?_, ?_⟩
  · rw [eval_set_of_not_mem htimeless hf, hv]
  · rw [Record.lookup_set, if_pos rfl]

theorem Settled.sameBeyondClock (h : ev.Settled formula r f) (hev : ev.SameBeyondClock ev')
    (htimeless : ∀ e, formula f = some e → e.IsTimeless) : ev'.Settled formula r f := by
  intro e he
  obtain ⟨v, hv, hlookup⟩ := h e he
  refine ⟨v, ?_, hlookup⟩
  rw [← hv]
  exact congrArg Run.outcome (hev.evalWithin levelLimit (htimeless e he) fun _ _ => rfl).symm

/-- When all fields outside a list are settled, and each rest of the list has all readers of its
fields, recalculating the list settles every field. -/
theorem settled_of_recalculate {todo : List String} {evs : Nat → Evaluator}
    (hev : ∀ n, ev.SameBeyondClock (evs n))
    (htimeless : ∀ f e, formula f = some e → e.IsTimeless)
    (hself : ∀ f e, formula f = some e → f ∉ e.fields)
    (hclosed : ∀ left, left <:+ todo → Graph.ClosedUnderReaders formula left)
    (hr : ∀ f, f ∉ todo → ev.Settled formula r f)
    (h : recalculate evs formula todo r = .ok r') (f : String) : ev.Settled formula r' f := by
  induction todo generalizing evs r with
  | nil =>
    cases h
    exact hr f List.not_mem_nil
  | cons y todo ih =>
    have hclosed' : ∀ left, left <:+ todo → Graph.ClosedUnderReaders formula left :=
      fun left hleft => hclosed left (hleft.trans (List.suffix_cons y todo))
    unfold recalculate at h
    cases hy : formula y with
    | none =>
      rw [hy] at h
      refine ih (fun n => hev (n + 1)) hclosed' (fun f hf => ?_) h
      by_cases hfy : f = y
      · intro e he
        rw [hfy, hy] at he
        cases he
      · exact hr f (by simp [hfy, hf])
    | some e =>
      rw [hy] at h
      dsimp only at h
      cases hv : ((evs 0).eval r e).outcome with
      | error failure =>
        rw [hv] at h
        cases h
      | ok v =>
        rw [hv] at h
        refine ih (fun n => hev (n + 1)) hclosed' (fun f hf => ?_) h
        by_cases hfy : f = y
        · rw [hfy]
          refine settled_set hy (htimeless y e hy) (hself y e hy) ?_
          rw [← hv]
          exact congrArg Run.outcome
            ((hev 0).evalWithin levelLimit (htimeless y e hy) fun _ _ => rfl)
        · have hfout : f ∉ y :: todo := by simp [hfy, hf]
          refine (hr f hfout).set (htimeless f) hfy (fun e' he' hmem => hfout ?_) v
          exact hclosed _ (List.suffix_refl _) f e' he' y hmem List.mem_cons_self

end

/-- Recalculation is sound. In a record where the formula fields of a graph are settled, any field
without a formula may be set to any value: once the affected fields are recalculated in the order of
the graph, all formula fields are settled again, and at any moment after. -/
theorem settled_recalculate {fs : List (String × ParseResult)} {g : Graph}
    (hg : Graph.ofFormulas fs = .ok g)
    (htimeless : ∀ f e, Graph.latest? fs f = some e → e.IsTimeless)
    {evs : Nat → Evaluator} (hev : ∀ m n, (evs m).SameBeyondClock (evs n))
    {r r' : Record} (hr : ∀ f, (evs 0).Settled (Graph.latest? fs) r f)
    {x : String} (hx : Graph.latest? fs x = none) (w : Value)
    (h : recalculate evs (Graph.latest? fs) (g.order (g.affected x)) (r.set x w) = .ok r')
    (n : Nat) (f : String) : (evs n).Settled (Graph.latest? fs) r' f := by
  have hrecords := Graph.records_ofFormulas hg
  refine Settled.sameBeyondClock ?_ (hev 0 n) (htimeless f)
  refine settled_of_recalculate (hev 0) htimeless (fun f e => hrecords.not_mem_fields)
    (fun left => hrecords.closedUnderReaders_order hx) (fun y hy => ?_) h f
  -- a field that is not affected does not read the field that was set
  intro e he
  have hyx : y ≠ x := by
    rintro rfl
    rw [hx] at he
    cases he
  refine (hr y).set (htimeless y) hyx (fun e' he' hmem => hy ?_) w e he
  obtain ⟨-, hmem_order, -⟩ := Graph.order_of_acyclic hrecords.distinct
    hrecords.inSync.converse hrecords.acyclic (g.affected x)
  exact (hmem_order y).2 (hrecords.affected_of_reads hx he' hmem (Or.inl rfl))

/-- With `b` for `+{a}` and `c` for `!{b}`, the latter in place of an earlier formula, setting `a`
from one to zero turns `c` from false to true. -/
theorem settled_recalculate_chain :
    let fs : List (String × ParseResult) := [("c", ⟨.ok (.field "a")⟩),
      ("b", ⟨.ok (.unary .plus (.field "a"))⟩), ("c", ⟨.ok (.unary .not (.field "b"))⟩)]
    let moment (n : Nat) : DateTime :=
      if n = 0 then Registry.epoch else .ofDate ⟨2024, 2, 29, by decide⟩
    let evs (n : Nat) : Evaluator := ⟨.builtIn (moment n), .codd, true⟩
    let r : Record := [("a", .int 1), ("b", .int 1), ("c", .bool false)]
    ∃ g r', Graph.ofFormulas fs = .ok g ∧
      recalculate evs (Graph.latest? fs) (g.order (g.affected "a")) (r.set "a" (.int 0)) = .ok r' ∧
      Value.lookup r' "c" = some (.bool true) ∧
      ∀ n f, (evs n).Settled (Graph.latest? fs) r' f := by
  intro fs moment evs r
  have hlatest : ∀ f e, Graph.latest? fs f = some e →
      (f = "b" ∧ e = .unary .plus (.field "a")) ∨ (f = "c" ∧ e = .unary .not (.field "b")) := by
    intro f e he
    by_cases hc : f = "c"
    · subst hc
      cases he
      exact Or.inr ⟨rfl, rfl⟩
    · by_cases hb : f = "b"
      · subst hb
        cases he
        exact Or.inl ⟨rfl, rfl⟩
      · simp [fs, Graph.latest?, Ne.symm hb, Ne.symm hc] at he
  let g : Graph := ⟨[("c", ["b"]), ("b", ["a"])], [("a", ["b"]), ("b", ["c"])]⟩
  have hg : Graph.ofFormulas fs = .ok g := rfl
  have h : recalculate evs (Graph.latest? fs) (g.order (g.affected "a")) (r.set "a" (.int 0)) =
      .ok [("a", .int 0), ("b", .int 0), ("c", .bool true)] := by
    have horder : g.order (g.affected "a") = ["b", "c"] := by decide
    rw [horder]
    rfl
  have hev : ∀ m n, (evs m).SameBeyondClock (evs n) :=
    fun m n => .builtIn (moment m) (moment n) .codd true
  have hx : Graph.latest? fs "a" = none := rfl
  refine ⟨g, _, hg, h, rfl, settled_recalculate hg ?_ hev ?_ hx (.int 0) h⟩
  · intro f e he
    rcases hlatest f e he with ⟨-, rfl⟩ | ⟨-, rfl⟩ <;> decide
  · intro f e he
    rcases hlatest f e he with ⟨rfl, rfl⟩ | ⟨rfl, rfl⟩
    · exact ⟨.int 1, rfl, rfl⟩
    · exact ⟨.bool false, rfl, rfl⟩

end Evaluator

end RecordCalc
