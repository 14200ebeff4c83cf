import RecordCalc.Proofs.Operator.BuiltIn

/-
  Sessions with registries, from one without operators. An operator is enrolled in place: all checks
  come first, each name of calls looked up in turn, and only then the operator and its names are
  written. `run_enroll` says that this is `register`, and that an operator that is turned away has
  left nothing written. A clone stands beside the registry that it was taken from.

  At any time the names of calls of a registry are just those of its operators, each of one operator
  (`Indexed`), and this decides what is found and what can be registered (`isExact_afterAll`).
-/

namespace RecordCalc

theorem Operator.mem_callNames {o : Operator} {name : String} :
    name ∈ o.callNames ↔ ∃ declared ∈ o.declaredNames, Text.upper declared = name := by
  have hnames : o.callNames = (o.declaredNames.map Text.upper).eraseDups := rfl
  rw [hnames, List.mem_eraseDups, List.mem_map]

/-! ## Enrolling in place -/

namespace Enrolling

variable {r : Registry} {o : Operator} {name id : String}

/-- Makes sure that no operator is called by a name. -/
def checkName (name : String) : EStateM Failure Registry Unit := do
  if ((← get).idOf? name).isSome then throw (.duplicateOperator name)

/-- The names with one more entry: in place of the one with the same name, else at the end. -/
def setName (names : List (String × String)) (name id : String) : List (String × String) :=
  match names with
  | [] => [(name, id)]
  | e :: rest => if e.1 == name then (name, id) :: rest else e :: setName rest name id

/-- Writes a name of calls of an operator. -/
def writeName (id name : String) : EStateM Failure Registry Unit :=
  modify fun r => { r with names := setName r.names name id }

/-- Enrolls an operator: the checks in turn, then the writes in turn. -/
def enroll (o : Operator) : EStateM Failure Registry Unit := do
  if (← get).frozen then throw (.registryFrozen o.id)
  if (← get).contains o.id then throw (.duplicateOperator o.id)
  forM o.callNames checkName
  modify fun r => { r with operators := r.operators ++ [o] }
  forM o.callNames (writeName o.id)

theorem run_checkName (name : String) (r : Registry) :
    (checkName name).run r =
      if (r.idOf? name).isSome then .error (.duplicateOperator name) r else .ok () r := by
  unfold checkName
  cases h : (r.idOf? name).isSome <;> simp [h]

theorem run_forM_checkName (names : List String) (r : Registry) :
    (forM names checkName).run r =
      match names.find? fun name => (r.idOf? name).isSome with
      | some name => .error (.duplicateOperator name) r
      | none => .ok () r := by
  induction names with
  | nil => rfl
  | cons name names ih =>
    rw [List.forM_cons, EStateM.run_bind, run_checkName]
    cases h : (r.idOf? name).isSome with
    | true => simp [h]
    | false => simpa [h] using ih

theorem setName_of_notMem {names : List (String × String)} (h : name ∉ names.map (·.1)) :
    setName names name id = names ++ [(name, id)] := by
  induction names with
  | nil => rfl
  | cons e names ih =>
    rw [List.map_cons, List.mem_cons, not_or] at h
    have hne : ¬ (e.1 == name) = true := fun he => h.1 (beq_iff_eq.1 he).symm
    rw [setName, if_neg hne, ih h.2, List.cons_append]

/-- New names, all different, are written behind the others. -/
theorem run_forM_writeName {names : List String} (hnodup : names.Nodup)
    (hnew : ∀ name ∈ names, name ∉ r.names.map (·.1)) :
    (forM names (writeName id)).run r =
      .ok () { r with names := r.names ++ names.map (·, id) } := by
  induction names generalizing r with
  | nil => simp
  | cons name names ih =>
    obtain ⟨hname, hnames⟩ := List.nodup_cons.1 hnodup
    have hrest : ∀ other ∈ names, other ∉ (r.names ++ [(name, id)]).map (·.1) := by
      intro other hother hm
      rw [List.map_append, List.mem_append, List.map_singleton, List.mem_singleton] at hm
      rcases hm with hm | rfl
      · exact hnew other (List.mem_cons_of_mem _ hother) hm
      · exact hname hother
    rw [List.forM_cons, EStateM.run_bind, writeName, EStateM.run_modify,
      setName_of_notMem (hnew name List.mem_cons_self)]
    simp only
    rw [ih hnames hrest]
    simp

end Enrolling

namespace Registry

open Enrolling

variable {r : Registry} {o : Operator} {name id : String}

theorem isSome_idOf? : (r.idOf? name).isSome = true ↔ name ∈ r.names.map (·.1) := by
  rw [idOf?, Option.isSome_map, List.find?_isSome, List.mem_map]
  simp only [beq_iff_eq]

theorem contains_iff : r.contains id = true ↔ ∃ p ∈ r.operators, p.id = id := by
  rw [contains, find?, List.find?_isSome]
  simp only [beq_iff_eq]

theorem find?_taken {names : List String} :
    names.find? (fun name => (r.idOf? name).isSome) = none ↔
      ∀ name ∈ names, name ∉ r.names.map (·.1) := by
  simp only [List.find?_eq_none, isSome_idOf?]

/-- What is enrolled in place is what is registered; what is turned away has written nothing. -/
theorem run_enroll (o : Operator) (r : Registry) :
    (enroll o).run r =
      match r.register o with
      | .ok r' => .ok () r'
      | .error f => .error f r := by
  unfold enroll register
  cases hfrozen : r.frozen with
  | true => simp [hfrozen]
  | false =>
    cases hid : r.contains o.id with
    | true => simp [hfrozen, hid]
    | false =>
      simp only [EStateM.run_bind, EStateM.run_get, hfrozen, hid, run_forM_checkName,
        EStateM.run_modify, Bool.false_eq_true, if_false]
      cases hfind : o.callNames.find? fun name => (r.idOf? name).isSome with
      | some name => rfl
      | none =>
        -- the names are new and all different, so that none is written over another
        simp only
        rw [run_forM_writeName o.nodup_callNames (by exact find?_taken.1 hfind), hfrozen]

/-- A registry that is not frozen takes an operator with a new id and new names of calls. -/
theorem register_eq_ok_iff {r' : Registry} :
    r.register o = .ok r' ↔
      (r.frozen = false ∧ (∀ p ∈ r.operators, p.id ≠ o.id) ∧
        ∀ name ∈ o.callNames, name ∉ r.names.map (·.1)) ∧
      r' = ⟨r.operators ++ [o], r.names ++ o.callNames.map (·, o.id), false⟩ := by
  have hnew : (∀ p ∈ r.operators, p.id ≠ o.id) ↔ r.contains o.id = false := by
    rw [← Bool.not_eq_true, contains_iff]
    simp only [not_exists, not_and, ne_eq]
  rw [hnew, ← find?_taken]
  unfold register
  cases hfrozen : r.frozen with
  | true => simp
  | false =>
    cases hid : r.contains o.id with
    | true => simp
    | false =>
      cases hfind : o.callNames.find? fun name => (r.idOf? name).isSome with
      | some name => simp
      | none => simp [eq_comm]

/-! ## Registries whose names are those of their operators -/

/-- The names of calls are just those of the operators, each of one operator; ids differ too. -/
structure Indexed (r : Registry) : Prop where
  names_eq : r.names = (listing r.operators).names
  nodup_ids : (r.operators.map (·.id)).Nodup
  nodup_names : (namesOf r.operators).Nodup

theorem indexed_empty : Indexed empty := ⟨rfl, List.nodup_nil, List.nodup_nil⟩

namespace Indexed

theorem freeze (h : Indexed r) : Indexed r.freeze := ⟨h.names_eq, h.nodup_ids, h.nodup_names⟩

theorem clone (h : Indexed r) : Indexed r.clone := ⟨h.names_eq, h.nodup_ids, h.nodup_names⟩

theorem map_fst (h : Indexed r) : r.names.map (·.1) = namesOf r.operators := by
  rw [h.names_eq, map_fst_names]

theorem register (h : Indexed r) {r' : Registry} (hr : r.register o = .ok r') : Indexed r' := by
  obtain ⟨⟨-, hid, hnames⟩, rfl⟩ := register_eq_ok_iff.1 hr
  rw [h.map_fst] at hnames
  refine ⟨?_, ?_, ?_⟩
  · simp [h.names_eq, listing]
  · rw [List.map_append, List.nodup_append']
    refine ⟨h.nodup_ids, List.nodup_singleton _, fun id hm hid' => ?_⟩
    obtain ⟨p, hp, rfl⟩ := List.mem_map.1 hm
    exact hid p hp (List.mem_singleton.1 hid')
  · have hsplit : namesOf (r.operators ++ [o]) = namesOf r.operators ++ o.callNames := by
      simp [namesOf]
    rw [hsplit, List.nodup_append']
    exact ⟨h.nodup_names, o.nodup_callNames, fun name hm hname => hnames name hname hm⟩

theorem mem_names (h : Indexed r) :
    (name, id) ∈ r.names ↔ ∃ o ∈ r.operators, o.id = id ∧ name ∈ o.callNames := by
  rw [h.names_eq, listing, List.mem_flatMap]
  refine exists_congr fun o => and_congr_right fun _ => ?_
  simp only [List.mem_map, Prod.mk.injEq]
  constructor
  · rintro ⟨n, hn, rfl, rfl⟩
    exact ⟨rfl, hn⟩
  · rintro ⟨rfl, hn⟩
    exact ⟨name, hn, rfl, rfl⟩

/-- A name of calls has one operator. -/
theorem owner (h : Indexed r) {o p : Operator} (ho : o ∈ r.operators) (hp : p ∈ r.operators)
    (hno : name ∈ o.callNames) (hnp : name ∈ p.callNames) : o = p := by
  have hido := idOf?_listing h.nodup_names ho hno
  rw [idOf?_listing h.nodup_names hp hnp] at hido
  exact Lists.eq_of_key h.nodup_ids ho hp (Option.some.inj hido).symm

theorem resolve?_eq_some (h : Indexed r) :
    r.resolve? name = some o ↔ o ∈ r.operators ∧ Text.upper name ∈ o.callNames := by
  have hid : r.idOf? = (listing r.operators).idOf? := by
    funext name
    rw [idOf?, h.names_eq, idOf?]
  have hfind : r.find? = (listing r.operators).find? := rfl
  rw [resolve?, Option.bind_eq_some_iff, hid, hfind]
  constructor
  · rintro ⟨id, hsome, ho⟩
    have hmem : o ∈ r.operators := List.mem_of_find?_eq_some ho
    have hkey : o.id = id := by simpa using List.find?_some ho
    obtain ⟨e, he, rfl⟩ := Option.map_eq_some_iff.1 hsome
    have hename : e.1 = Text.upper name := by simpa using List.find?_some he
    obtain ⟨p, hp, hpid, hpname⟩ := h.mem_names.1 (h.names_eq ▸ List.mem_of_find?_eq_some he)
    rw [hename] at hpname
    rw [← hpid] at hkey
    exact ⟨hmem, Lists.eq_of_key h.nodup_ids hmem hp hkey ▸ hpname⟩
  · rintro ⟨hmem, hname⟩
    exact ⟨o.id, idOf?_listing h.nodup_names hmem hname, find?_listing h.nodup_ids hmem⟩

end Indexed

/-! ## Sessions -/

/-- What happens to the registries of a session, each told by its place. -/
inductive Move where
  | register (place : Nat) (o : Operator)
  | freeze (place : Nat)
  | clone (place : Nat)

/-- The registry after an operator is enrolled or turned away. -/
def afterEnroll (o : Operator) (r : Registry) : Registry :=
  match (enroll o).run r with
  | .ok () r' => r'
  | .error _ r' => r'

/-- The registries after a move; a clone comes behind the others. -/
def afterMove (rs : List Registry) : Move → List Registry
  | .register place o => rs.modify place (afterEnroll o)
  | .freeze place => rs.modify place Registry.freeze
  | .clone place => rs ++ (rs[place]?.map Registry.clone).toList

/-- The registries after some moves. -/
def afterMoves (rs : List Registry) (moves : List Move) : List Registry := moves.foldl afterMove rs

/-- The registries of a session that starts with an empty one. -/
def afterAll (moves : List Move) : List Registry := afterMoves [empty] moves

theorem afterEnroll_eq (o : Operator) (r : Registry) :
    r.register o = .ok (afterEnroll o r) ∨ afterEnroll o r = r := by
  unfold afterEnroll
  rw [run_enroll]
  cases r.register o with
  | ok r' => exact .inl rfl
  | error f => exact .inr rfl

theorem afterEnroll_of_frozen (h : r.frozen = true) : afterEnroll o r = r := by
  refine (afterEnroll_eq o r).resolve_left fun hr => ?_
  rw [(register_eq_ok_iff.1 hr).1.1] at h
  cases h

theorem Indexed.afterEnroll (h : Indexed r) (o : Operator) : Indexed (afterEnroll o r) := by
  rcases afterEnroll_eq o r with hr | hr
  · exact h.register hr
  · rwa [hr]

/-- What a change at one place keeps is kept for all. -/
theorem forall_modify {P : Registry → Prop} {f : Registry → Registry} (hf : ∀ r, P r → P (f r))
    {rs : List Registry} (h : ∀ r ∈ rs, P r) (place : Nat) : ∀ r ∈ rs.modify place f, P r := by
  intro r hr
  obtain ⟨i, hi⟩ := List.mem_iff_getElem?.1 hr
  rw [List.getElem?_modify, Option.map_eq_map, Option.map_eq_some_iff] at hi
  obtain ⟨r', hr', rfl⟩ := hi
  have hP := h r' (List.mem_of_getElem? hr')
  split
  · exact hf r' hP
  · exact hP

theorem indexed_afterMove {rs : List Registry} (h : ∀ r ∈ rs, Indexed r) (m : Move) :
    ∀ r ∈ afterMove rs m, Indexed r := by
  cases m with
  | register place o => exact forall_modify (fun r hr => hr.afterEnroll o) h place
  | freeze place => exact forall_modify (fun r hr => hr.freeze) h place
  | clone place =>
    intro r hr
    rcases List.mem_append.1 hr with hr | hr
    · exact h r hr
    · obtain ⟨r', hr', rfl⟩ := Option.map_eq_some_iff.1 (Option.mem_toList.1 hr)
      exact (h r' (List.mem_of_getElem? hr')).clone

theorem indexed_afterMoves {rs : List Registry} (h : ∀ r ∈ rs, Indexed r) (moves : List Move) :
    ∀ r ∈ afterMoves rs moves, Indexed r := by
  induction moves generalizing rs with
  | nil => exact h
  | cons m moves ih => exact ih (indexed_afterMove h m)

/-- A move leaves a frozen registry as it is. -/
theorem frozen_afterMove {rs : List Registry} {i : Nat} (hi : rs[i]? = some r)
    (h : r.frozen = true) (m : Move) : (afterMove rs m)[i]? = some r := by
  have hfreeze : r.freeze = r := by rw [Registry.freeze, ← h]
  cases m with
  | register place o =>
    rw [afterMove, List.getElem?_modify, hi]
    simp [afterEnroll_of_frozen h]
  | freeze place =>
    rw [afterMove, List.getElem?_modify, hi]
    simp [hfreeze]
  | clone place =>
    rw [afterMove, List.getElem?_append_left (List.getElem?_eq_some_iff.1 hi).1, hi]

theorem frozen_afterMoves {rs : List Registry} {i : Nat} (hi : rs[i]? = some r)
    (h : r.frozen = true) (moves : List Move) : (afterMoves rs moves)[i]? = some r := by
  induction moves generalizing rs with
  | nil => exact hi
  | cons m moves ih => exact ih (frozen_afterMove hi h m)

/-- What a registry finds and takes is decided by its operators. -/
structure IsExact (r : Registry) : Prop where
  /-- The names of calls are just the names of the operators, in upper case. -/
  mem_names : ∀ name id, (name, id) ∈ r.names ↔
    ∃ o ∈ r.operators, o.id = id ∧ ∃ declared ∈ o.declaredNames, Text.upper declared = name
  /-- Every name of calls stands there once. -/
  nodup_names : (r.names.map (·.1)).Nodup
  nodup_ids : (r.operators.map (·.id)).Nodup
  owner : ∀ o ∈ r.operators, ∀ p ∈ r.operators, ∀ name ∈ o.callNames, name ∈ p.callNames → o = p
  resolve : ∀ name o, r.resolve? name = some o ↔
    o ∈ r.operators ∧ ∃ declared ∈ o.declaredNames, Text.upper declared = Text.upper name
  takes : ∀ o, (∃ r', (enroll o).run r = .ok () r') ↔
    r.frozen = false ∧ (∀ p ∈ r.operators, p.id ≠ o.id) ∧
      ∀ name ∈ o.callNames, name ∉ r.names.map (·.1)
  /-- An operator that is taken comes behind the others, and so do its names. -/
  taken : ∀ o r', (enroll o).run r = .ok () r' →
    r' = ⟨r.operators ++ [o], r.names ++ o.callNames.map (·, o.id), false⟩
  turnedAway : ∀ o f r', (enroll o).run r = .error f r' → r' = r

theorem run_enroll_eq_ok {r' : Registry} :
    (enroll o).run r = .ok () r' ↔ r.register o = .ok r' := by
  rw [run_enroll]
  cases r.register o <;> simp

theorem Indexed.isExact (h : Indexed r) : IsExact r where
  mem_names name id := by simp only [h.mem_names, Operator.mem_callNames]
  nodup_names := h.map_fst ▸ h.nodup_names
  nodup_ids := h.nodup_ids
  owner o ho p hp name := h.owner ho hp
  resolve name o := by rw [h.resolve?_eq_some, Operator.mem_callNames]
  takes o := by
    simp only [run_enroll_eq_ok, register_eq_ok_iff]
    exact ⟨fun ⟨r', h, _⟩ => h, fun h => ⟨_, h, rfl⟩⟩
  taken o r' hr := (register_eq_ok_iff.1 (run_enroll_eq_ok.1 hr)).2
  turnedAway o f r' hr := by
    rw [run_enroll] at hr
    split at hr
    · cases hr
    · cases hr
      rfl

/-- At any time of a session its registries are exact, and one that is frozen stays as it is. -/
theorem isExact_afterAll (moves : List Move) :
    (∀ r ∈ afterAll moves, IsExact r) ∧
      ∀ later (place : Nat) (r : Registry), (afterAll moves)[place]? = some r → r.frozen = true →
        (afterAll (moves ++ later))[place]? = some r := by
  refine ⟨fun r hr => ?_, fun later place r hr hfrozen => ?_⟩
  · refine (indexed_afterMoves ?_ moves r hr).isExact
    intro r hr
    rw [List.mem_singleton.1 hr]
    exact indexed_empty
  · have hsplit : afterAll (moves ++ later) = afterMoves (afterAll moves) later :=
      List.foldl_append
    rw [hsplit]
    exact frozen_afterMoves hr hfrozen later

end Registry

end RecordCalc
