import RecordCalc.Operator.BuiltIn
import RecordCalc.Proofs.Operator.Registry
import RecordCalc.Proofs.Text.Capital

/-
  The registry of the built-in operators. Their ids and their names of calls are all different, so
  each is found by its id (`get_builtIn`) and by its names of calls (`resolve?_builtIn`), and
  nothing else is found (`mem_of_get`, `mem_of_resolve?`). These do not depend on the moment of the
  registry, so they are looked over once, at a fixed one.
-/

namespace RecordCalc

open Calendar (DateTime)

/-- The names of calls as they are declared, before they are put in upper case. -/
def Operator.declaredNames (o : Operator) : List String :=
  o.id :: ((if isIdentifier o.symbol then [o.symbol] else []) ++ o.aliases)

theorem Operator.callNames_eq {o : Operator}
    (h : o.declaredNames.all fun name => name.toList.all Text.isBeforeSmall) :
    o.callNames = o.declaredNames.eraseDups := by
  have hmap : o.declaredNames.map Text.upper = o.declaredNames := by
    have hall : ∀ name ∈ o.declaredNames, name.toList.all Text.isBeforeSmall := by simpa using h
    rw [List.map_congr_left fun name hname => Text.upper_of_isBeforeSmall (hall name hname)]
    exact List.map_id _
  conv => rhs; rw [← hmap]
  rfl

namespace Registry

/-- A moment. -/
def epoch : DateTime := .ofDate ⟨1970, 1, 1, by decide⟩

theorem ids_builtInOperators (now : DateTime) :
    (builtInOperators now).map (·.id) = (builtInOperators epoch).map (·.id) := rfl

theorem declaredNames_builtInOperators (now : DateTime) :
    (builtInOperators now).map (·.declaredNames) =
      (builtInOperators epoch).map (·.declaredNames) := rfl

theorem nodup_ids_builtIn (now : DateTime) : ((builtInOperators now).map (·.id)).Nodup := by
  rw [ids_builtInOperators]
  decide +kernel

/-- No declared name has small letters. -/
theorem isBeforeSmall_declaredNames {now : DateTime} {o : Operator}
    (ho : o ∈ builtInOperators now) :
    o.declaredNames.all fun name => name.toList.all Text.isBeforeSmall := by
  have hall : ∀ names ∈ (builtInOperators epoch).map (·.declaredNames),
      names.all fun name => name.toList.all Text.isBeforeSmall := by decide +kernel
  rw [← declaredNames_builtInOperators now] at hall
  exact hall _ (List.mem_map_of_mem ho)

theorem callNames_builtIn {now : DateTime} {o : Operator} (ho : o ∈ builtInOperators now) :
    o.callNames = o.declaredNames.eraseDups :=
  Operator.callNames_eq (isBeforeSmall_declaredNames ho)

theorem nodup_callNames_builtIn (now : DateTime) : (namesOf (builtInOperators now)).Nodup := by
  have hnames : namesOf (builtInOperators now) =
      ((builtInOperators now).map (·.declaredNames)).flatMap List.eraseDups := by
    rw [namesOf, List.flatMap_map]
    exact List.flatMap_congr fun o ho => callNames_builtIn ho
  rw [hnames, declaredNames_builtInOperators]
  decide +kernel

/-- The registry of the built-in operators holds just these. -/
theorem builtIn_eq (now : DateTime) : builtIn now = (listing (builtInOperators now)).freeze := by
  rw [builtIn, ofList_eq (nodup_ids_builtIn now) (nodup_callNames_builtIn now)]
  rfl

theorem operators_builtIn (now : DateTime) : (builtIn now).operators = builtInOperators now := by
  rw [builtIn_eq]
  rfl

@[simp] theorem find?_freeze (r : Registry) (id : String) : r.freeze.find? id = r.find? id := rfl

@[simp] theorem idOf?_freeze (r : Registry) (name : String) :
    r.freeze.idOf? name = r.idOf? name := rfl

theorem find?_builtIn {now : DateTime} {o : Operator} (ho : o ∈ builtInOperators now) :
    (builtIn now).find? o.id = some o := by
  rw [builtIn_eq, find?_freeze]
  exact find?_listing (nodup_ids_builtIn now) ho

theorem get_builtIn {now : DateTime} {o : Operator} (ho : o ∈ builtInOperators now) :
    (builtIn now).get o.id = .ok o := by
  rw [get, find?_builtIn ho]

theorem resolve?_builtIn {now : DateTime} {o : Operator} (ho : o ∈ builtInOperators now)
    {name : String} (hname : Text.upper name ∈ o.callNames) :
    (builtIn now).resolve? name = some o := by
  have hid : (builtIn now).idOf? (Text.upper name) = some o.id := by
    rw [builtIn_eq, idOf?_freeze]
    exact idOf?_listing (nodup_callNames_builtIn now) ho hname
  rw [resolve?, hid, Option.bind_some]
  exact find?_builtIn ho

/-- A built-in operator is called by its id in any letter case. -/
theorem resolve?_of_upper {now : DateTime} {o : Operator} (ho : o ∈ builtInOperators now)
    {name : String} (hname : Text.upper name = o.id) : (builtIn now).resolve? name = some o := by
  refine resolve?_builtIn ho ?_
  rw [callNames_builtIn ho, List.mem_eraseDups, hname]
  exact List.mem_cons_self

theorem resolve?_id {now : DateTime} {o : Operator} (ho : o ∈ builtInOperators now) :
    (builtIn now).resolve? o.id = some o :=
  resolve?_of_upper ho (Text.upper_of_isBeforeSmall
    (List.all_eq_true.1 (isBeforeSmall_declaredNames ho) _ List.mem_cons_self))

/-- The operators that may leave arguments unevaluated. -/
def lazyIds : List String := ["AND", "OR", "IF", "AND3", "OR3"]

theorem isLazy_builtIn {now : DateTime} {o : Operator} (ho : o ∈ builtInOperators now) :
    o.isLazy = true ↔ o.id ∈ lazyIds := by
  have hsame : (builtInOperators now).map (fun o => (o.id, o.isLazy)) =
      (builtInOperators epoch).map (fun o => (o.id, o.isLazy)) := rfl
  have hall : ∀ p ∈ (builtInOperators epoch).map (fun o => (o.id, o.isLazy)),
      p.2 = true ↔ p.1 ∈ lazyIds := by decide +kernel
  rw [← hsame] at hall
  exact hall _ (List.mem_map_of_mem ho)

theorem isLazy_eq_false {now : DateTime} {o : Operator} (ho : o ∈ builtInOperators now)
    (hid : o.id ∉ lazyIds) : o.isLazy = false :=
  Bool.eq_false_iff.2 (mt (isLazy_builtIn ho).1 hid)

/-- What is found in the registry is a built-in operator. -/
theorem mem_of_find? {now : DateTime} {id : String} {o : Operator}
    (h : (builtIn now).find? id = some o) : o ∈ builtInOperators now ∧ o.id = id := by
  rw [builtIn_eq, find?_freeze] at h
  exact ⟨List.mem_of_find?_eq_some h, by simpa using List.find?_some h⟩

theorem mem_of_get {now : DateTime} {id : String} {o : Operator}
    (h : (builtIn now).get id = .ok o) : o ∈ builtInOperators now ∧ o.id = id :=
  mem_of_find? (find?_of_get h)

theorem mem_of_resolve? {now : DateTime} {name : String} {o : Operator}
    (h : (builtIn now).resolve? name = some o) : o ∈ builtInOperators now := by
  obtain ⟨id, -, hfind⟩ := Option.bind_eq_some_iff.1 h
  exact (mem_of_find? hfind).1

/-- A built-in operator is known by its id. -/
theorem eq_of_id_eq {now : DateTime} {o o' : Operator} (ho : o ∈ builtInOperators now)
    (ho' : o' ∈ builtInOperators now) (hid : o.id = o'.id) : o = o' := by
  have hfind := find?_builtIn ho
  rw [hid, find?_builtIn ho'] at hfind
  exact (Option.some.inj hfind).symm

/-- Some of the built-in operators are told by their ids. -/
theorem mem_of_id_mem {now : DateTime} {o : Operator} {os : List Operator}
    (ho : o ∈ builtInOperators now) (hos : os ⊆ builtInOperators now)
    (hid : o.id ∈ os.map (·.id)) : o ∈ os := by
  obtain ⟨o', ho', hid⟩ := List.mem_map.1 hid
  rw [eq_of_id_eq ho (hos ho') hid.symm]
  exact ho'

end Registry

end RecordCalc
