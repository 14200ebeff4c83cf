import RecordCalc.Operator.Registry
import RecordCalc.Proofs.Lists

/-
  Registries built from lists of operators. Operators with different ids and different names of
  calls can all be registered (`ofList_eq`), and then each is found by its id (`find?_listing`) and
  by every one of its names of calls (`idOf?_listing`).
-/

namespace RecordCalc

theorem Operator.nodup_callNames (o : Operator) : o.callNames.Nodup := Lists.nodup_eraseDups _

namespace Registry

variable {os : List Operator} {o : Operator}

theorem find?_of_get {r : Registry} {id : String} {o : Operator} (h : r.get id = .ok o) :
    r.find? id = some o := by
  unfold get at h
  split at h
  · next hfind =>
    cases h
    exact hfind
  · cases h

theorem id_of_get {r : Registry} {id : String} (h : r.get id = .ok o) : o.id = id := by
  simpa using List.find?_some (find?_of_get h)

/-- The open registry that holds just the given operators. -/
def listing (os : List Operator) : Registry :=
  ⟨os, os.flatMap fun o => o.callNames.map (·, o.id), false⟩

/-- All names of calls of some operators. -/
def namesOf (os : List Operator) : List String := os.flatMap (·.callNames)

theorem map_fst_names (os : List Operator) : (listing os).names.map (·.1) = namesOf os := by
  simp [listing, namesOf, List.map_flatMap, Function.comp_def]

theorem find?_listing_eq_none (os : List Operator) (id : String) :
    (listing os).find? id = none ↔ id ∉ os.map (·.id) := by
  simp only [find?, listing, List.find?_eq_none, List.mem_map, not_exists, not_and, beq_iff_eq]

theorem idOf?_listing_eq_none (os : List Operator) (name : String) :
    (listing os).idOf? name = none ↔ name ∉ namesOf os := by
  rw [← map_fst_names]
  simp only [idOf?, Option.map_eq_none_iff, List.find?_eq_none, List.mem_map, not_exists, not_and,
    beq_iff_eq]

/-- An operator with a new id and new names of calls is registered behind the others. -/
theorem register_listing (hid : o.id ∉ os.map (·.id))
    (hnames : ∀ name ∈ o.callNames, name ∉ namesOf os) :
    (listing os).register o = .ok (listing (os ++ [o])) := by
  have hfree : o.callNames.find? (fun name => ((listing os).idOf? name).isSome) = none := by
    rw [List.find?_eq_none]
    intro name hname
    rw [(idOf?_listing_eq_none os name).2 (hnames name hname)]
    simp
  unfold register
  rw [if_neg (by simp [listing]), if_neg (by simp [contains, (find?_listing_eq_none os o.id).2 hid]),
    hfree]
  simp [listing]

theorem foldlM_register (before os : List Operator) (hids : ((before ++ os).map (·.id)).Nodup)
    (hnames : (namesOf (before ++ os)).Nodup) :
    os.foldlM register (listing before) = .ok (listing (before ++ os)) := by
  induction os generalizing before with
  | nil => simp [pure, Except.pure]
  | cons o os ih =>
    have hid : o.id ∉ before.map (·.id) := by
      intro hm
      rw [List.map_append, List.map_cons] at hids
      exact (List.disjoint_of_nodup_append hids) hm List.mem_cons_self
    have hnew : ∀ name ∈ o.callNames, name ∉ namesOf before := by
      intro name hname hm
      unfold namesOf at hnames hm
      rw [List.flatMap_append, List.flatMap_cons] at hnames
      exact (List.disjoint_of_nodup_append hnames) hm (List.mem_append_left _ hname)
    have hsplit : before ++ o :: os = before ++ [o] ++ os := by simp
    rw [List.foldlM_cons, register_listing hid hnew, hsplit]
    exact ih (before ++ [o]) (hsplit ▸ hids) (hsplit ▸ hnames)

theorem ofList_eq (hids : (os.map (·.id)).Nodup) (hnames : (namesOf os).Nodup) :
    ofList os = .ok (listing os) :=
  foldlM_register [] os hids hnames

theorem find?_listing (hids : (os.map (·.id)).Nodup) (ho : o ∈ os) :
    (listing os).find? o.id = some o := Lists.find?_key hids ho

theorem idOf?_listing (hnames : (namesOf os).Nodup) (ho : o ∈ os) {name : String}
    (hname : name ∈ o.callNames) : (listing os).idOf? name = some o.id := by
  have hmem : (name, o.id) ∈ (listing os).names :=
    List.mem_flatMap.2 ⟨o, ho, List.mem_map_of_mem hname⟩
  have hfind := Lists.find?_key (map_fst_names os ▸ hnames) hmem
  simp only [idOf?]
  rw [hfind]
  rfl

/-- One operator makes a registry, and a call by any of its names stands for it. -/
theorem exists_ofList_singleton {name : String} (hname : Text.upper name ∈ o.callNames) :
    ∃ r, ofList [o] = .ok r ∧ r.resolve? name = some o := by
  have hids : ([o].map (·.id)).Nodup := List.nodup_singleton _
  have hnames : (namesOf [o]).Nodup := by
    rw [namesOf, List.flatMap_singleton]
    exact o.nodup_callNames
  refine ⟨_, ofList_eq hids hnames, ?_⟩
  rw [resolve?, idOf?_listing hnames List.mem_cons_self hname, Option.bind_some]
  exact find?_listing hids List.mem_cons_self

end Registry

end RecordCalc
