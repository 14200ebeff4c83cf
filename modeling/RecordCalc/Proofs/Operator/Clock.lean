import RecordCalc.Proofs.Operator.BuiltIn

/-
  The functions that give the present. The moment of the built-in registry decides the rules of
  these alone: by any other id, and by any other name of calls, it gives the same operator at every
  moment.
-/

namespace RecordCalc

open Calendar (DateTime)

/-- The ids of the functions that give the present, which are their names of calls as well. -/
def clockNames : List String := ["TODAY", "NOW"]

/-- The operator does not give the present. -/
def Operator.isTimeless (o : Operator) : Bool := !clockNames.contains o.id

namespace Registry

/-- The registries differ at most in the functions that give the present. -/
structure SameBeyondClock (reg reg' : Registry) : Prop where
  get : ∀ id, id ∉ clockNames → reg.get id = reg'.get id
  resolve? : ∀ name, Text.upper name ∉ clockNames → reg.resolve? name = reg'.resolve? name

theorem SameBeyondClock.refl (reg : Registry) : reg.SameBeyondClock reg :=
  ⟨fun _ _ => rfl, fun _ _ => rfl⟩

theorem timeless_builtIn (now now' : DateTime) :
    (builtInOperators now).filter (·.isTimeless) =
      (builtInOperators now').filter (·.isTimeless) := by
  have hdates : (Dates.operators now).filter (·.isTimeless) =
      (Dates.operators now').filter (·.isTimeless) := rfl
  simp only [builtInOperators, List.filter_append, hdates]

theorem find?_builtIn_moment (now now' : DateTime) {id : String} (hid : id ∉ clockNames) :
    (builtIn now).find? id = (builtIn now').find? id := by
  have htimeless : (fun o : Operator => o.id == id) =
      fun o => decide (o.isTimeless = true ∧ (o.id == id) = true) := by
    funext o
    by_cases h : o.id = id
    · simp [h, Operator.isTimeless, hid]
    · simp [h]
  simp only [builtIn_eq, find?_freeze]
  simp only [find?, listing]
  rw [htimeless, ← List.find?_filter, ← List.find?_filter, timeless_builtIn now now']

theorem idOf?_builtIn_moment (now now' : DateTime) (name : String) :
    (builtIn now).idOf? name = (builtIn now').idOf? name := by
  have hnames : (listing (builtInOperators now)).names =
      (listing (builtInOperators now')).names := rfl
  rw [builtIn_eq, builtIn_eq, idOf?_freeze, idOf?_freeze, idOf?, idOf?, hnames]

/-- A function that gives the present is called by its id alone. -/
theorem callNames_clock {now : DateTime} {o : Operator} (ho : o ∈ builtInOperators now)
    (hid : o.id ∈ clockNames) : o.callNames = [o.id] := by
  have hall : ∀ names ∈ (builtInOperators epoch).map (·.declaredNames),
      names.head! ∈ clockNames → names.eraseDups = [names.head!] := by decide +kernel
  rw [← declaredNames_builtInOperators now] at hall
  rw [callNames_builtIn ho]
  exact hall _ (List.mem_map_of_mem ho) hid

theorem idOf?_builtIn_timeless {now : DateTime} {name id : String} (hname : name ∉ clockNames)
    (h : (builtIn now).idOf? name = some id) : id ∉ clockNames := by
  intro hid
  rw [builtIn_eq, idOf?_freeze, idOf?, Option.map_eq_some_iff] at h
  obtain ⟨⟨name', id'⟩, hfind, rfl⟩ := h
  have hkey : name' = name := by simpa using List.find?_some hfind
  obtain ⟨o, ho, hmem⟩ := List.mem_flatMap.1 (List.mem_of_find?_eq_some hfind)
  obtain ⟨name'', hcall, heq⟩ := List.mem_map.1 hmem
  cases heq
  rw [callNames_clock ho hid, List.mem_singleton] at hcall
  exact hname (hkey ▸ hcall ▸ hid)

/-- The built-in registries of all moments have the same operators but for the clock. -/
theorem sameBeyondClock_builtIn (now now' : DateTime) :
    (builtIn now).SameBeyondClock (builtIn now') where
  get id hid := by rw [Registry.get, Registry.get, find?_builtIn_moment now now' hid]
  resolve? name hname := by
    rw [Registry.resolve?, Registry.resolve?, ← idOf?_builtIn_moment now now']
    cases hid : (builtIn now).idOf? (Text.upper name) with
    | none => rw [Option.bind_none, Option.bind_none]
    | some id =>
      rw [Option.bind_some, Option.bind_some]
      exact find?_builtIn_moment now now' (idOf?_builtIn_timeless hname hid)

end Registry

end RecordCalc
