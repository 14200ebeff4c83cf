import RecordCalc.Proofs.Dependency.Changes
import RecordCalc.Proofs.Dependency.Spread
import RecordCalc.Proofs.Lists

/-
  The relation "reads" of a dependency graph. `reaches_iff` and `mem_affected_iff` say what the two
  searches of a graph find: everything that some fields reach by reading, and every formula field
  that reaches a field. No change closes a cycle (`acyclic_after`), since a formula field is turned
  away when one of its inputs reaches it, and only then (`register_afterAll`).
-/

namespace RecordCalc.Dependency.Graph

open Relation (ReflTransGen TransGen)

/-- The formula field `f` has `x` among its inputs. -/
def Reads (g : Graph) (f x : String) : Prop := x ∈ g.requires.get f

/-- No formula field reads itself, directly or through others. -/
def Acyclic (g : Graph) : Prop := ∀ f, ¬ TransGen g.Reads f f

/-- No list of inputs or of readers has a field twice. -/
structure Distinct (g : Graph) : Prop where
  requires : g.requires.Distinct
  dependents : g.dependents.Distinct

variable {g g' : Graph} {field : String} {inputs : List String}

/-! ## What the searches find -/

theorem reaches_iff (h : g.requires.Distinct) (sources : List String) (field : String) :
    g.reaches sources field = true ↔ ∃ s ∈ sources, ReflTransGen g.Reads s field := by
  have hnext : ∀ x, ∀ y ∈ g.requires.get x, y ∈ sources.eraseDups ++ g.requires.values :=
    fun x y hy => List.mem_append_right _ (FieldMap.mem_values_of_mem_get hy)
  have hsteps : (sources.eraseDups ++ g.requires.values).length ≤
      sources.eraseDups.length + g.requires.total := by
    simp [FieldMap.length_values]
  unfold reaches
  simp only [List.contains_iff_mem]
  rw [mem_spread_iff h hnext (Lists.nodup_eraseDups sources)
    (fun x hx => List.mem_append_left _ hx) hsteps]
  simp only [List.mem_eraseDups]
  rfl

theorem cons_affected (g : Graph) (x : String) :
    x :: g.affected x = spread g.dependents.get (g.dependents.total + 1) [x] [x] := by
  obtain ⟨found, hfound⟩ : [x] <+: spread g.dependents.get (g.dependents.total + 1) [x] [x] :=
    seen_prefix_spread _ _ _
  unfold affected
  rw [← hfound]
  rfl

theorem affected_eq (h : g.dependents.Distinct) (x : String) :
    (∀ f, f ∈ x :: g.affected x ↔ ReflTransGen (Leads g.dependents.get) x f) ∧
      (x :: g.affected x).Nodup := by
  have hnext : ∀ y, ∀ z ∈ g.dependents.get y, z ∈ x :: g.dependents.values :=
    fun y z hz => List.mem_cons_of_mem _ (FieldMap.mem_values_of_mem_get hz)
  have hnodes : ∀ y ∈ [x], y ∈ x :: g.dependents.values := by simp
  have hsteps : (x :: g.dependents.values).length ≤ g.dependents.total + 1 := by
    simp [FieldMap.length_values]
  rw [cons_affected]
  refine ⟨fun f => ?_, nodup_spread h hnext (List.nodup_singleton x) hnodes hsteps⟩
  rw [mem_spread_iff h hnext (List.nodup_singleton x) hnodes hsteps]
  simp

theorem mem_affected_iff (h : g.dependents.Distinct) (x f : String) :
    f ∈ g.affected x ↔ f ≠ x ∧ ReflTransGen (Leads g.dependents.get) x f := by
  obtain ⟨hmem, hnodup⟩ := affected_eq h x
  rw [← hmem, List.mem_cons]
  constructor
  · intro hf
    exact ⟨fun he => (List.nodup_cons.1 hnodup).1 (he ▸ hf), Or.inr hf⟩
  · rintro ⟨hne, hf⟩
    exact hf.resolve_left hne

theorem nodup_affected (h : g.dependents.Distinct) (x : String) : (g.affected x).Nodup :=
  (affected_eq h x).2.of_cons

/-! ## Lists without repeats -/

theorem distinct_empty : empty.Distinct := ⟨FieldMap.distinct_nil, FieldMap.distinct_nil⟩

theorem distinct_add (h : g.Distinct) (hadd : g.add? field inputs = some g') : g'.Distinct := by
  rw [(add?_eq_some hadd).2]
  exact ⟨h.requires.set _ (Lists.nodup_eraseDups _), (h.dependents.removeAll _ _).insertAll _ _⟩

theorem distinct_remove (h : g.Distinct) (field : String) : (g.remove field).Distinct :=
  ⟨h.requires.erase _, (h.dependents.removeAll _ _).erase _⟩

theorem distinct_after (h : g.Distinct) (c : Change) : (g.after c).Distinct := by
  obtain ⟨f, inputs, g', -, hadd, hg⟩ | ⟨-, -, hg⟩ | ⟨f, -, hg⟩ | ⟨-, hg⟩ := after_cases g c <;>
    rw [hg]
  · exact distinct_add h hadd
  · exact h
  · exact distinct_remove h f
  · exact distinct_empty

theorem distinct_afterAll (cs : List Change) : (afterAll cs).Distinct := by
  induction cs using List.reverseRecOn with
  | nil => exact distinct_empty
  | append_singleton cs c ih => exact afterAll_concat cs c ▸ distinct_after ih c

/-! ## Graphs of any readings -/

/-- The graph of some readings, each a formula field and a field that it reads, whether or not they
close a cycle. -/
def ofReadings (readings : List (String × String)) : Graph :=
  readings.foldl (fun g e => g.addEdge e.1 e.2) empty

theorem distinct_ofReadings (readings : List (String × String)) :
    (ofReadings readings).Distinct :=
  List.foldlRecOn readings _ distinct_empty fun _ h _ _ =>
    ⟨h.requires.insert _ _, h.dependents.insert _ _⟩

theorem converse_ofReadings (readings : List (String × String)) :
    (ofReadings readings).Converse :=
  List.foldlRecOn readings _ converse_empty fun _ h e _ => converse_addEdge h e.1 e.2

/-! ## No cycles -/

theorem acyclic_empty : empty.Acyclic := by
  intro f h
  obtain ⟨x, hx, -⟩ := TransGen.head'_iff.1 h
  exact List.not_mem_nil hx

theorem acyclic_mono (h : g.Acyclic) (hsub : ∀ f x, g'.Reads f x → g.Reads f x) : g'.Acyclic :=
  fun f hf => h f (TransGen.mono hsub f f hf)

theorem reads_add (hadd : g.add? field inputs = some g') (f x : String) :
    g'.Reads f x ↔ if f = field then x ∈ inputs else g.Reads f x := by
  unfold Reads
  rw [requires_add hadd]
  split <;> simp

/-- A way to a formula field does not need what the field itself reads. -/
theorem reaches_of_reaches_add (hadd : g.add? field inputs = some g') {x : String}
    (h : ReflTransGen g'.Reads x field) : ReflTransGen g.Reads x field := by
  induction h using ReflTransGen.head_induction_on with
  | refl => exact .refl
  | @head a b hab _ ih =>
    by_cases ha : a = field
    · exact ha ▸ .refl
    · rw [reads_add hadd, if_neg ha] at hab
      exact .head hab ih

/-- A way in the graph with a new formula field is a way of the old graph, or it comes by the
field. -/
theorem reads_or_through_add (hadd : g.add? field inputs = some g') {x y : String}
    (h : TransGen g'.Reads x y) :
    TransGen g.Reads x y ∨ (ReflTransGen g'.Reads x field ∧ TransGen g'.Reads field y) := by
  induction h with
  | @single b hb =>
    by_cases hx : x = field
    · exact Or.inr ⟨hx ▸ .refl, hx ▸ .single hb⟩
    · rw [reads_add hadd, if_neg hx] at hb
      exact Or.inl (.single hb)
  | @tail b c hab hbc ih =>
    by_cases hb : b = field
    · exact Or.inr ⟨hb ▸ hab.to_reflTransGen, hb ▸ .single hbc⟩
    · rcases ih with ih | ⟨hx, hf⟩
      · rw [reads_add hadd, if_neg hb] at hbc
        exact Or.inl (ih.tail hbc)
      · exact Or.inr ⟨hx, hf.tail hbc⟩

theorem acyclic_add (hd : g.requires.Distinct) (h : g.Acyclic)
    (hadd : g.add? field inputs = some g') : g'.Acyclic := by
  intro f hf
  rcases reads_or_through_add hadd hf with hold | ⟨hto, hfrom⟩
  · exact h f hold
  · -- a cycle by the new field leaves it for an input, and the input reaches it in the old graph
    obtain ⟨i, hi, hif⟩ := TransGen.head'_iff.1 (hfrom.trans_left hto)
    rw [reads_add hadd, if_pos rfl] at hi
    have hreach := (reaches_iff hd inputs.eraseDups field).2
      ⟨i, List.mem_eraseDups.2 hi, reaches_of_reaches_add hadd hif⟩
    rw [(add?_eq_some hadd).1] at hreach
    cases hreach

theorem acyclic_remove (h : g.Acyclic) (field : String) : (g.remove field).Acyclic := by
  refine acyclic_mono h fun f x hx => ?_
  unfold Reads at hx ⊢
  rw [requires_remove] at hx
  split at hx
  · cases hx
  · exact hx

theorem acyclic_after (hd : g.requires.Distinct) (h : g.Acyclic) (c : Change) :
    (g.after c).Acyclic := by
  obtain ⟨f, inputs, g', -, hadd, hg⟩ | ⟨-, -, hg⟩ | ⟨f, -, hg⟩ | ⟨-, hg⟩ := after_cases g c <;>
    rw [hg]
  · exact acyclic_add hd h hadd
  · exact h
  · exact acyclic_remove h f
  · exact acyclic_empty

/-- No sequence of changes closes a cycle. -/
theorem acyclic_afterAll (cs : List Change) : (afterAll cs).Acyclic := by
  induction cs using List.reverseRecOn with
  | nil => exact acyclic_empty
  | append_singleton cs c ih =>
    exact afterAll_concat cs c ▸ acyclic_after (distinct_afterAll cs).requires ih c

/-! ## What is turned away -/

/-- A registration is turned away just when an input reaches the formula field. -/
theorem add?_eq_none_iff (h : g.requires.Distinct) (field : String) (inputs : List String) :
    g.add? field inputs = none ↔ ∃ x ∈ inputs, ReflTransGen g.Reads x field := by
  have hreaches := reaches_iff h inputs.eraseDups field
  simp only [List.mem_eraseDups] at hreaches
  rw [← hreaches]
  unfold add?
  cases hr : g.reaches inputs.eraseDups field <;> simp [hr]

/-- After every sequence of changes no formula field reads itself, and registering a field is turned
away just when one of its inputs reaches the field. Then the graph stays as it was; else the entry
of the field is its inputs without repeats, and the other entries stay as they were. -/
theorem register_afterAll (cs : List Change) (field : String) (inputs : List String) :
    (afterAll cs).Acyclic ∧
    match (afterAll cs).register field inputs with
    | .error _ => (∃ x ∈ inputs, ReflTransGen (afterAll cs).Reads x field) ∧
        (afterAll cs).after (.add field inputs) = afterAll cs
    | .ok g => (∀ x ∈ inputs, ¬ ReflTransGen (afterAll cs).Reads x field) ∧
        (afterAll cs).after (.add field inputs) = g ∧
        ∀ f, g.requires.find? (·.1 == f) =
          if f = field then some (field, inputs.eraseDups)
          else (afterAll cs).requires.find? (·.1 == f) := by
  refine ⟨acyclic_afterAll cs, ?_⟩
  have hnone := add?_eq_none_iff (distinct_afterAll cs).requires field inputs
  have hafter : (afterAll cs).after (.add field inputs) =
      ((afterAll cs).register field inputs).toOption.getD (afterAll cs) := rfl
  rw [hafter, register]
  cases hadd : (afterAll cs).add? field inputs with
  | none => exact ⟨hnone.1 hadd, rfl⟩
  | some g =>
    refine ⟨fun x hx hreach => ?_, rfl, find?_requires_add hadd⟩
    rw [hnone.2 ⟨x, hx, hreach⟩] at hadd
    cases hadd

end RecordCalc.Dependency.Graph
