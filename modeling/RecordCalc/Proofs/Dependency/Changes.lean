import Mathlib.Data.List.Induction
import Mathlib.Tactic.Tauto
import RecordCalc.Dependency.Formulas
import RecordCalc.Proofs.Dependency.FieldMap

/-
  Sequences of changes of a dependency graph, from the graph without formula fields. A change
  registers a formula field, by its inputs or by its formula, removes a field, or clears the graph;
  one that is turned away changes nothing.

  `requires` is exact after every sequence. `dependents` never has an empty list and never lists a
  reader too many, but it may lack one: removing a field drops what was recorded of its readers,
  while the readers keep the field among their inputs. `mem_dependents_afterAll` says which readers
  are lacking: those registered before the removal and not again since.
-/

namespace RecordCalc.Dependency

/-- A change of a graph. -/
inductive Change
  | add (field : String) (inputs : List String)
  | addFormula (field : String) (parsed : ParseResult)
  | remove (field : String)
  | clear

/-- The field that a change registers and the inputs that it gives the field, none for a change that
registers nothing. -/
def Change.registration? : Change → Option (String × List String)
  | add field inputs => some (field, inputs)
  | addFormula field ⟨.ok e⟩ => some (field, e.fields)
  | addFormula _ ⟨.error _⟩ | remove _ | clear => none

namespace Graph

/-- What a change comes to: the new graph, or the words for why it is turned away. -/
def change (g : Graph) : Change → Except String Graph
  | .add field inputs => g.register field inputs
  | .addFormula field parsed => g.registerFormula field parsed
  | .remove field => .ok (g.remove field)
  | .clear => .ok empty

/-- The graph after a change; one that is turned away leaves it as it is. -/
def after (g : Graph) (c : Change) : Graph := (g.change c).toOption.getD g

/-- The graph after some changes of the graph without formula fields. -/
def afterAll (cs : List Change) : Graph := cs.foldl after empty

/-- The change registers the field and is not turned away. -/
def Registers (g : Graph) (c : Change) (field : String) : Prop :=
  ∃ inputs, c.registration? = some (field, inputs) ∧ (g.add? field inputs).isSome

/-- The field `input` was removed, and the formula field was not registered after that. -/
inductive RemovedSince (input field : String) : List Change → Prop
  | now (cs : List Change) : RemovedSince input field (cs ++ [.remove input])
  | still {cs : List Change} {c : Change} :
      RemovedSince input field cs → ¬ (afterAll cs).Registers c field →
      RemovedSince input field (cs ++ [c])

/-- Both maps record the same readings, and no field has an empty list of readers. -/
structure InSync (g : Graph) : Prop where
  mem_iff : ∀ x f, f ∈ g.dependents.get x ↔ x ∈ g.requires.get f
  noEmpty : g.dependents.NoEmpty

/-- Every recorded reader has the field among its inputs. -/
def ReadersRead (g : Graph) : Prop := ∀ x f, f ∈ g.dependents.get x → x ∈ g.requires.get f

theorem InSync.readersRead {g : Graph} (h : g.InSync) : g.ReadersRead := fun x f => (h.mem_iff x f).1

/-- The maps are converse to each other: a field is recorded as a reader just of its inputs. -/
def Converse (g : Graph) : Prop := ∀ x f, f ∈ g.dependents.get x ↔ x ∈ g.requires.get f

theorem InSync.converse {g : Graph} (h : g.InSync) : g.Converse := h.mem_iff

theorem afterAll_concat (cs : List Change) (c : Change) :
    afterAll (cs ++ [c]) = (afterAll cs).after c := by
  simp [afterAll]

/-! ## What one change does -/

/-- Everything that a change can do. -/
theorem after_cases (g : Graph) (c : Change) :
    (∃ f inputs g', c.registration? = some (f, inputs) ∧ g.add? f inputs = some g' ∧
      g.after c = g') ∨
    ((∀ f, ¬ g.Registers c f) ∧ (∀ f, c ≠ .remove f) ∧ g.after c = g) ∨
    (∃ f, c = .remove f ∧ g.after c = g.remove f) ∨
    (c = .clear ∧ g.after c = empty) := by
  have registered : ∀ f inputs, c.registration? = some (f, inputs) → (∀ f, c ≠ .remove f) →
      g.change c = g.register f inputs →
      (∃ f inputs g', c.registration? = some (f, inputs) ∧ g.add? f inputs = some g' ∧
        g.after c = g') ∨ ((∀ f, ¬ g.Registers c f) ∧ (∀ f, c ≠ .remove f) ∧ g.after c = g) := by
    intro f inputs hc hr hch
    unfold after
    rw [hch, register]
    cases hadd : g.add? f inputs with
    | some g' => exact Or.inl ⟨f, inputs, g', hc, hadd, rfl⟩
    | none =>
      refine Or.inr ⟨?_, hr, rfl⟩
      rintro f' ⟨inputs', hc', hsome⟩
      rw [hc] at hc'
      cases hc'
      simp [hadd] at hsome
  cases c with
  | add f inputs =>
    exact (registered f inputs rfl (by simp) rfl).imp_right Or.inl
  | addFormula f parsed =>
    obtain ⟨e | e⟩ := parsed
    · refine Or.inr (Or.inl ⟨?_, by simp, rfl⟩)
      rintro f' ⟨inputs', hc', -⟩
      cases hc'
    · exact (registered f e.fields rfl (by simp) rfl).imp_right Or.inl
  | remove f => exact Or.inr (Or.inr (Or.inl ⟨f, rfl, rfl⟩))
  | clear => exact Or.inr (Or.inr (Or.inr ⟨rfl, rfl⟩))

section
variable {g g' : Graph} {field : String} {inputs : List String}

theorem add?_eq_some (h : g.add? field inputs = some g') :
    g.reaches inputs.eraseDups field = false ∧
      g' = (g.unlink field).link field inputs.eraseDups := by
  unfold add? at h
  simp only at h
  split at h
  · cases h
  · rename_i hr
    exact ⟨Bool.eq_false_iff.2 hr, (Option.some.inj h).symm⟩

theorem requires_add (h : g.add? field inputs = some g') (f : String) :
    g'.requires.get f = if f = field then inputs.eraseDups else g.requires.get f := by
  rw [(add?_eq_some h).2]
  exact FieldMap.get_set _ _ _ _

theorem find?_requires_add (h : g.add? field inputs = some g') (f : String) :
    g'.requires.find? (·.1 == f) =
      if f = field then some (field, inputs.eraseDups) else g.requires.find? (·.1 == f) := by
  rw [(add?_eq_some h).2]
  exact FieldMap.find?_set _ _ _ _

/-- Unlinking takes the field out of every list of readers. -/
theorem mem_dependents_unlink (hg : g.ReadersRead) (x f : String) :
    f ∈ (g.unlink field).dependents.get x ↔ f ≠ field ∧ f ∈ g.dependents.get x := by
  unfold unlink
  rw [FieldMap.mem_get_removeAll]
  constructor
  · rintro ⟨hf, hn⟩
    refine ⟨?_, hf⟩
    rintro rfl
    exact hn ⟨hg x f hf, rfl⟩
  · rintro ⟨hne, hf⟩
    exact ⟨hf, fun h => hne h.2⟩

theorem mem_dependents_add (h : g.add? field inputs = some g') (hg : g.ReadersRead)
    (x f : String) :
    f ∈ g'.dependents.get x ↔
      if f = field then x ∈ inputs else f ∈ g.dependents.get x := by
  rw [(add?_eq_some h).2]
  unfold link
  rw [FieldMap.mem_get_insertAll, mem_dependents_unlink hg, List.mem_eraseDups]
  by_cases hf : f = field <;> simp [hf]

theorem noEmpty_add (h : g.add? field inputs = some g') (hg : g.dependents.NoEmpty) :
    g'.dependents.NoEmpty := by
  rw [(add?_eq_some h).2]
  exact (hg.removeAll _ _).insertAll _ _

/-- Registering a formula field keeps the maps in sync. -/
theorem inSync_add (hg : g.InSync) (h : g.add? field inputs = some g') : g'.InSync := by
  refine ⟨fun x f => ?_, noEmpty_add h hg.noEmpty⟩
  rw [mem_dependents_add h hg.readersRead, requires_add h]
  by_cases hf : f = field
  · simp [hf]
  · simp [hf, hg.mem_iff]

theorem requires_remove (g : Graph) (field f : String) :
    (g.remove field).requires.get f = if f = field then [] else g.requires.get f :=
  FieldMap.get_erase _ _ _

theorem mem_dependents_remove (hg : g.ReadersRead) (x f : String) :
    f ∈ (g.remove field).dependents.get x ↔
      x ≠ field ∧ f ≠ field ∧ f ∈ g.dependents.get x := by
  have herase : (g.remove field).dependents.get x =
      if x = field then [] else (g.unlink field).dependents.get x := FieldMap.get_erase _ _ _
  rw [herase]
  by_cases hx : x = field
  · simp [hx]
  · simp [hx, mem_dependents_unlink hg]

theorem noEmpty_remove (hg : g.dependents.NoEmpty) : (g.remove field).dependents.NoEmpty :=
  (hg.removeAll _ _).erase _

/-- One more input is recorded on both sides, even if it closes a cycle. -/
theorem converse_addEdge (hg : g.Converse) (field input : String) :
    (g.addEdge field input).Converse := by
  intro x f
  unfold addEdge
  rw [FieldMap.mem_get_insert, FieldMap.mem_get_insert, hg x f, and_comm]

theorem converse_empty : empty.Converse := by
  intro x f
  simp [empty]

end

/-! ## What a sequence of changes does -/

theorem removedSince_concat (x f : String) (cs : List Change) (c : Change) :
    RemovedSince x f (cs ++ [c]) ↔
      c = .remove x ∨ (RemovedSince x f cs ∧ ¬ (afterAll cs).Registers c f) := by
  constructor
  · intro h
    generalize hl : cs ++ [c] = l at h
    cases h with
    | now cs' => exact Or.inl (List.concat_inj.1 (by simpa using hl)).2
    | still h hr =>
      obtain ⟨rfl, hc⟩ := List.append_inj' hl rfl
      cases hc
      exact Or.inr ⟨h, hr⟩
  · rintro (rfl | ⟨h, hr⟩)
    · exact .now cs
    · exact .still h hr

theorem not_registers_of_registration {g : Graph} {c : Change} {f f' : String}
    {inputs : List String} (hc : c.registration? = some (f', inputs)) (hf : f ≠ f') :
    ¬ g.Registers c f := by
  rintro ⟨inputs', hc', -⟩
  rw [hc] at hc'
  cases hc'
  exact hf rfl

/-- The readers that `dependents` records are those whose input was not removed since. -/
theorem mem_dependents_afterAll (cs : List Change) (x f : String) :
    f ∈ (afterAll cs).dependents.get x ↔
      x ∈ (afterAll cs).requires.get f ∧ ¬ RemovedSince x f cs := by
  induction cs using List.reverseRecOn generalizing x f with
  | nil => simp [afterAll, empty]
  | append_singleton cs c ih =>
    have hsub : (afterAll cs).ReadersRead := fun x f h => ((ih x f).1 h).1
    rw [afterAll_concat, removedSince_concat]
    obtain ⟨f', inputs, g', hc, hadd, hg⟩ | ⟨hreg, hrem, hg⟩ | ⟨f', hc, hg⟩ | ⟨hc, hg⟩ :=
      after_cases (afterAll cs) c
    · have hrem : c ≠ .remove x := by
        rintro rfl
        cases hc
      rw [hg, mem_dependents_add hadd hsub, requires_add hadd]
      by_cases hf : f = f'
      · have hreg : (afterAll cs).Registers c f := ⟨inputs, hf ▸ hc, by rw [hf, hadd]; rfl⟩
        simp [hf ▸ hreg, hf, hrem]
      · simp [hf, ih, hrem, not_registers_of_registration hc hf]
    · simp [hg, ih, hreg, hrem]
    · have hreg : ¬ (afterAll cs).Registers c f := by
        rintro ⟨inputs, hc', -⟩
        subst hc
        cases hc'
      have hx : c = .remove x ↔ x = f' := by rw [hc, Change.remove.injEq, eq_comm]
      rw [hg, mem_dependents_remove hsub, requires_remove, hx]
      by_cases hf : f = f'
      · simp [hf]
      · simp only [hf, if_false, ih, hreg]
        tauto
    · simp [hg, empty]

theorem noEmpty_afterAll (cs : List Change) : (afterAll cs).dependents.NoEmpty := by
  induction cs using List.reverseRecOn with
  | nil => exact FieldMap.noEmpty_nil
  | append_singleton cs c ih =>
    rw [afterAll_concat]
    obtain ⟨f', inputs, g', -, hadd, hg⟩ | ⟨-, -, hg⟩ | ⟨f', -, hg⟩ | ⟨-, hg⟩ :=
      after_cases (afterAll cs) c <;> rw [hg]
    · exact noEmpty_add hadd ih
    · exact ih
    · exact noEmpty_remove ih
    · exact FieldMap.noEmpty_nil

/-- After every sequence of changes no list of readers is empty, a formula field is recorded as a
reader exactly of those of its inputs that were not removed since it was registered, and the two
maps are in sync exactly when there is no such input. -/
theorem inSync_afterAll_iff (cs : List Change) :
    (afterAll cs).dependents.NoEmpty ∧
    (∀ x f, f ∈ (afterAll cs).dependents.get x ↔
      x ∈ (afterAll cs).requires.get f ∧ ¬ RemovedSince x f cs) ∧
    ((afterAll cs).InSync ↔
      ∀ x f, x ∈ (afterAll cs).requires.get f → ¬ RemovedSince x f cs) := by
  refine ⟨noEmpty_afterAll cs, mem_dependents_afterAll cs, ?_, ?_⟩
  · intro h x f hx
    exact ((mem_dependents_afterAll cs x f).1 ((h.mem_iff x f).2 hx)).2
  · intro h
    refine ⟨fun x f => ?_, noEmpty_afterAll cs⟩
    rw [mem_dependents_afterAll]
    exact ⟨And.left, fun hx => ⟨hx, h x f hx⟩⟩

/-- Removing a field that a formula still reads leaves the maps out of sync. -/
theorem not_inSync_remove_read :
    ¬ (afterAll [.add "b" ["a"], .add "c" ["b"], .remove "b"]).InSync := by
  intro h
  have hread : "b" ∈ (afterAll [.add "b" ["a"], .add "c" ["b"], .remove "b"]).requires.get "c" := by
    decide
  have hrecorded := (h.mem_iff "b" "c").2 hread
  revert hrecorded
  decide

end Graph

end RecordCalc.Dependency
