import Mathlib.Data.List.Basic
import RecordCalc.Formula.Expr

/-
  The parts of an expression, and what an expression mentions: its parts mention no more. The fields
  that it reads are found by a walk over a stack of expressions (`walk_eq_fields`).
-/

namespace RecordCalc.Expr

/-- The parts that are evaluated for the value of an expression. -/
def parts : Expr → List Expr
  | literal _ | field _ | bare _ => []
  | call _ args => args
  | unary _ e => [e]
  | binary _ l r => [l, r]

mutual

/-- The names of the calls in an expression. -/
def callNames : Expr → List String
  | literal _ | field _ | bare _ => []
  | call name args => name :: callNamesOf args
  | unary _ e => e.callNames
  | binary _ l r => l.callNames ++ r.callNames

/-- The names of the calls in a list of expressions. -/
def callNamesOf : List Expr → List String
  | [] => []
  | e :: es => e.callNames ++ callNamesOf es

end

@[simp] theorem mem_fields {e : Expr} {name : String} : name ∈ e.fields ↔ name ∈ e.references :=
  List.mem_eraseDups

theorem referencesOf_append (es es' : List Expr) :
    referencesOf (es ++ es') = referencesOf es ++ referencesOf es' := by
  induction es with
  | nil => rfl
  | cons e es ih => rw [List.cons_append, referencesOf, referencesOf, ih, List.append_assoc]

theorem mem_referencesOf {es : List Expr} {e : Expr} (he : e ∈ es) {name : String}
    (h : name ∈ e.references) : name ∈ referencesOf es := by
  obtain ⟨before, after, rfl⟩ := List.append_of_mem he
  rw [referencesOf_append, referencesOf]
  exact List.mem_append_right _ (List.mem_append_left _ h)

theorem mem_callNamesOf {es : List Expr} {e : Expr} (he : e ∈ es) {name : String}
    (h : name ∈ e.callNames) : name ∈ callNamesOf es := by
  induction es with
  | nil => cases he
  | cons e' es ih =>
    rcases List.mem_cons.1 he with rfl | he
    · exact List.mem_append_left _ h
    · exact List.mem_append_right _ (ih he)

theorem references_of_mem_parts {e p : Expr} (hp : p ∈ e.parts) {name : String}
    (h : name ∈ p.references) : name ∈ e.references := by
  cases e with
  | literal | field | bare => cases hp
  | call f args => exact mem_referencesOf hp h
  | unary op e => exact List.mem_singleton.1 hp ▸ h
  | binary op l r =>
    rcases List.mem_pair.1 hp with rfl | rfl
    · exact List.mem_append_left _ h
    · exact List.mem_append_right _ h

theorem callNames_of_mem_parts {e p : Expr} (hp : p ∈ e.parts) {name : String}
    (h : name ∈ p.callNames) : name ∈ e.callNames := by
  cases e with
  | literal | field | bare => cases hp
  | call f args => exact List.mem_cons_of_mem _ (mem_callNamesOf hp h)
  | unary op e => exact List.mem_singleton.1 hp ▸ h
  | binary op l r =>
    rcases List.mem_pair.1 hp with rfl | rfl
    · exact List.mem_append_left _ h
    · exact List.mem_append_right _ h

/-! ## The walk over a stack -/

/-- The size of a stack of expressions: that of all of them together. -/
noncomputable def stackSize : List Expr → Nat
  | [] => 0
  | e :: stack => sizeOf e + stackSize stack

theorem stackSize_append (es es' : List Expr) :
    stackSize (es ++ es') = stackSize es + stackSize es' := by
  induction es with
  | nil => simp [stackSize]
  | cons e es ih =>
    rw [List.cons_append, stackSize, stackSize, ih]
    omega

theorem stackSize_le (es : List Expr) : stackSize es ≤ sizeOf es := by
  induction es with
  | nil => exact Nat.zero_le _
  | cons e es ih =>
    rw [stackSize, List.cons.sizeOf_spec]
    omega

/-- The fields found so far, with one more unless it is among them. -/
def note (found : List String) (name : String) : List String :=
  if name ∈ found then found else found ++ [name]

/-- The fields found so far, then those that the expressions of a stack add to them. The top of the
stack is taken off, and its parts are put on the stack, the first of them on top. -/
def walk (found : List String) : List Expr → List String
  | [] => found
  | field name :: stack => walk (note found name) stack
  | call _ args :: stack => walk found (args ++ stack)
  | unary _ e :: stack => walk found (e :: stack)
  | binary _ l r :: stack => walk found (l :: r :: stack)
  | literal _ :: stack | bare _ :: stack => walk found stack
termination_by stack => stackSize stack
decreasing_by
  all_goals simp only [stackSize, stackSize_append, literal.sizeOf_spec, field.sizeOf_spec,
    call.sizeOf_spec, unary.sizeOf_spec, binary.sizeOf_spec, bare.sizeOf_spec]
  · omega
  · have := stackSize_le args
    omega
  all_goals omega

theorem eraseDups_concat (names : List String) (name : String) :
    (names ++ [name]).eraseDups = note names.eraseDups name := by
  rw [List.eraseDups_append]
  by_cases h : name ∈ names <;> simp [note, h, List.removeAll, List.eraseDups_cons]

theorem walk_eq (names : List String) (stack : List Expr) :
    walk names.eraseDups stack = (names ++ referencesOf stack).eraseDups := by
  generalize hfound : names.eraseDups = found
  fun_induction walk found stack generalizing names with
  | case1 found => simp [referencesOf, hfound]
  | case2 found name stack ih =>
    subst hfound
    rw [ih (names ++ [name]) (eraseDups_concat names name), List.append_assoc]
    rfl
  | case3 found name args stack ih =>
    rw [ih names hfound, referencesOf_append]
    rfl
  | case4 found op e stack ih => exact ih names hfound
  | case5 found op l r stack ih =>
    rw [ih names hfound]
    simp only [referencesOf, references, List.append_assoc]
  | case6 found v stack ih => exact ih names hfound
  | case7 found v stack ih => exact ih names hfound

/-- The walk from an expression alone on the stack finds the fields that the expression reads, in
the order of their first references. -/
theorem walk_eq_fields (e : Expr) : walk [] [e] = e.fields := by
  have h := walk_eq [] [e]
  simpa [referencesOf, fields] using h

end RecordCalc.Expr
