import Mathlib.Data.List.Perm.Basic
import Mathlib.Data.Set.Finite.Basic
import Mathlib.Order.WellFounded
import RecordCalc.Proofs.Dependency.Acyclic

/-
  The order of evaluation. The loop takes free fields one by one; it counts, for every field still
  to come, the inputs that are still to come (`unmet`). `Taking` is what one step keeps: exactly the
  fields without unmet inputs were taken or are free. `takeFree_taking` runs it to the end. The
  fields that are not taken each read another one of them, so all are taken unless they read each
  other in a circle (`length_taken`); and fields in a circle cannot all stand behind what they read
  (`Orders.not_cyclicAmong`). Both together say what the order is (`order_nil_or_orders`).
-/

namespace RecordCalc.Dependency

open Relation (ReflTransGen TransGen)

/-! ## One release -/

theorem mem_lessen {x : String} {needs : List (String × Int)} {f : String} {k : Int} :
    (f, k) ∈ lessen x needs ↔ if f = x then (f, k + 1) ∈ needs else (f, k) ∈ needs := by
  unfold lessen
  rw [List.mem_map]
  constructor
  · rintro ⟨⟨n, j⟩, hp, he⟩
    by_cases hn : n = x
    · simp only [hn, beq_self_eq_true, if_true, Prod.mk.injEq] at he
      obtain ⟨rfl, rfl⟩ := he
      simpa [hn] using hp
    · simp only [beq_eq_false_iff_ne.2 hn, Bool.false_eq_true, if_false, Prod.mk.injEq] at he
      obtain ⟨rfl, rfl⟩ := he
      simpa [hn] using hp
  · intro h
    by_cases hf : f = x
    · rw [if_pos hf] at h
      exact ⟨(f, k + 1), h, by simp [hf]⟩
    · rw [if_neg hf] at h
      exact ⟨(f, k), h, by simp [hf]⟩

/-- A release counts one need less for every reader, and frees those whose last need it was. -/
theorem release_eq {readers : List String} (hreaders : readers.Nodup)
    (needs : List (String × Int)) :
    release readers needs =
      (needs.map fun p => if p.1 ∈ readers then (p.1, p.2 - 1) else p,
        readers.filter fun r => needs.contains (r, 1)) := by
  induction readers generalizing needs with
  | nil => simp [release]
  | cons r rest ih =>
    obtain ⟨hr, hrest⟩ := List.nodup_cons.1 hreaders
    have hmap : (lessen r needs).map (fun p => if p.1 ∈ rest then (p.1, p.2 - 1) else p) =
        needs.map fun p => if p.1 ∈ r :: rest then (p.1, p.2 - 1) else p := by
      unfold lessen
      rw [List.map_map]
      refine List.map_congr_left fun p _ => ?_
      by_cases hp : p.1 = r
      · simp [hp, hr]
      · simp [hp]
    have hfirst : (lessen r needs).contains (r, 0) = needs.contains (r, 1) := by
      rw [Bool.eq_iff_iff, List.contains_iff_mem, List.contains_iff_mem, mem_lessen, if_pos rfl]
      simp
    have hothers : rest.filter (fun r' => (lessen r needs).contains (r', 1)) =
        rest.filter fun r' => needs.contains (r', 1) := by
      refine List.filter_congr fun r' hr' => ?_
      have hne : r' ≠ r := fun h => hr (h ▸ hr')
      rw [Bool.eq_iff_iff, List.contains_iff_mem, List.contains_iff_mem, mem_lessen, if_neg hne]
    rw [release, ih hrest]
    simp only [hmap, hfirst, hothers, List.filter_cons]

namespace Graph

/-! ## Unmet inputs -/

/-- How many of the wanted fields that a field reads are not done. -/
def unmet (g : Graph) (wanted done : List String) (f : String) : Int :=
  ((g.requires.get f).filter fun x => wanted.contains x && !done.contains x).length

variable {g : Graph} {wanted done free : List String} {x f : String}

theorem unmet_eq_zero_iff :
    g.unmet wanted done f = 0 ↔ ∀ x ∈ g.requires.get f, x ∈ wanted → x ∈ done := by
  unfold unmet
  rw [Int.natCast_eq_zero, List.length_eq_zero_iff, List.filter_eq_nil_iff]
  simp only [Bool.and_eq_true, List.contains_iff_mem, Bool.not_eq_true', not_and,
    Bool.not_eq_false]

theorem unmet_nil (wanted : List String) (f : String) :
    g.unmet wanted [] f = g.needsAmong wanted f := by
  simp [unmet, needsAmong]

theorem unmet_concat (hd : g.requires.Distinct) (hx : x ∈ wanted) (hdone : x ∉ done)
    (f : String) :
    g.unmet wanted (done ++ [x]) f =
      if x ∈ g.requires.get f then g.unmet wanted done f - 1 else g.unmet wanted done f := by
  have herase : (g.requires.get f).filter
        (fun y => wanted.contains y && !(done ++ [x]).contains y) =
      ((g.requires.get f).filter fun y => wanted.contains y && !done.contains y).erase x := by
    rw [((hd f).filter _).erase_eq_filter, List.filter_filter]
    refine List.filter_congr fun y _ => ?_
    by_cases hy : y = x <;> simp [hy]
  unfold unmet
  rw [herase, List.length_erase]
  by_cases hread : x ∈ g.requires.get f
  · have hmem : x ∈ (g.requires.get f).filter fun y => wanted.contains y && !done.contains y := by
      simp [hread, hx, hdone]
    have hpos := List.length_pos_of_mem hmem
    rw [if_pos hmem, if_pos hread]
    omega
  · rw [if_neg (fun h => hread (List.mem_of_mem_filter h)), if_neg hread]

/-- The counters of the loop: every wanted field with its unmet inputs. -/
def counters (g : Graph) (wanted done : List String) : List (String × Int) :=
  wanted.map fun f => (f, g.unmet wanted done f)

theorem mem_counters {k : Int} :
    (f, k) ∈ g.counters wanted done ↔ f ∈ wanted ∧ g.unmet wanted done f = k := by
  simp [counters]

/-! ## The loop -/

/-- What the loop keeps: exactly the wanted fields without unmet inputs were taken or are free. -/
structure Taking (g : Graph) (wanted done free : List String) : Prop where
  nodup : (done ++ free).Nodup
  mem_iff : ∀ f, f ∈ done ++ free ↔ f ∈ wanted ∧ g.unmet wanted done f = 0

theorem release_counters (hd : g.Distinct) (hc : g.Converse) (hx : x ∈ wanted) (hdone : x ∉ done) :
    release (g.dependents.get x) (g.counters wanted done) =
      (g.counters wanted (done ++ [x]),
        (g.dependents.get x).filter fun r => (g.counters wanted done).contains (r, 1)) := by
  rw [release_eq (hd.dependents x)]
  refine Prod.ext ?_ rfl
  simp only [counters, List.map_map]
  refine List.map_congr_left fun f _ => ?_
  simp only [Function.comp_apply, unmet_concat hd.requires hx hdone, hc _ _]
  split <;> rfl

theorem Taking.step (hd : g.Distinct) (hc : g.Converse) (h : Taking g wanted done (x :: free)) :
    Taking g wanted (done ++ [x])
      (free ++ (g.dependents.get x).filter fun r => (g.counters wanted done).contains (r, 1)) := by
  have hx : x ∈ wanted ∧ g.unmet wanted done x = 0 := (h.mem_iff x).1 (by simp)
  have hdone : x ∉ done := fun hm => (List.disjoint_of_nodup_append h.nodup) hm List.mem_cons_self
  have hfreed : ∀ f, (f ∈ (g.dependents.get x).filter
      fun r => (g.counters wanted done).contains (r, 1)) ↔
      x ∈ g.requires.get f ∧ f ∈ wanted ∧ g.unmet wanted done f = 1 := by
    intro f
    rw [List.mem_filter, List.contains_iff_mem, mem_counters, hc _ _]
  have hold : ∀ f, f ∈ done ++ [x] ++ free ↔ f ∈ wanted ∧ g.unmet wanted done f = 0 := by
    intro f
    rw [List.append_assoc]
    exact h.mem_iff f
  refine ⟨?_, fun f => ?_⟩
  · rw [← List.append_assoc]
    refine List.Nodup.append (by simpa using h.nodup) ((hd.dependents x).filter _) ?_
    intro f hf hf'
    have h0 := ((hold f).1 hf).2
    have h1 := ((hfreed f).1 hf').2.2
    omega
  · rw [← List.append_assoc, List.mem_append, hold, hfreed, unmet_concat hd.requires hx.1 hdone]
    by_cases hread : x ∈ g.requires.get f
    · have hpos : g.unmet wanted done f ≠ 0 := by
        intro h0
        exact hdone (unmet_eq_zero_iff.1 h0 x hread hx.1)
      simp only [hread, if_true, true_and, hpos, and_false, false_or]
      rw [Int.sub_eq_zero]
    · simp [hread]

/-- The loop ends with no free field left, and takes every field after all of its wanted inputs. -/
theorem takeFree_taking (hd : g.Distinct) (hc : g.Converse) {steps : Nat}
    (h : Taking g wanted done free) (hsteps : wanted.length < steps + done.length) :
    Taking g wanted
        (done ++ takeFree g.dependents.get steps free (g.counters wanted done)) [] ∧
      ∀ l y r, takeFree g.dependents.get steps free (g.counters wanted done) = l ++ y :: r →
        ∀ z ∈ g.requires.get y, z ∈ wanted → z ∈ done ++ l := by
  induction steps generalizing done free with
  | zero =>
    -- more fields would be done than are wanted
    have hsub : done ⊆ wanted := fun f hf => ((h.mem_iff f).1 (List.mem_append_left _ hf)).1
    have hlen := (List.subperm_of_subset (List.Nodup.of_append_left h.nodup) hsub).length_le
    omega
  | succ n ih =>
    cases free with
    | nil =>
      refine ⟨by simpa [takeFree] using h, ?_⟩
      intro l y r he
      simp [takeFree] at he
    | cons x free =>
      have hx : x ∈ wanted ∧ g.unmet wanted done x = 0 := (h.mem_iff x).1 (by simp)
      have hdone : x ∉ done :=
        fun hm => (List.disjoint_of_nodup_append h.nodup) hm List.mem_cons_self
      have hrest := ih (h.step hd hc) (by simp; omega)
      rw [takeFree, release_counters hd hc hx.1 hdone]
      dsimp only
      refine ⟨by simpa using hrest.1, ?_⟩
      intro l y r he z hz hzw
      cases l with
      | nil =>
        obtain ⟨rfl, -⟩ := List.cons.inj he
        exact List.mem_append_left _ (unmet_eq_zero_iff.1 hx.2 z hz hzw)
      | cons y' l =>
        obtain ⟨rfl, hl⟩ := List.cons.inj he
        simpa using hrest.2 l y r hl z hz hzw

theorem taking_start (hwanted : wanted.Nodup) :
    Taking g wanted [] (((g.counters wanted []).filter (·.2 == 0)).map (·.1)) := by
  have hfree : ((g.counters wanted []).filter (·.2 == 0)).map (·.1) =
      wanted.filter fun f => g.unmet wanted [] f == 0 := by
    simp only [counters, List.filter_map, List.map_map]
    exact List.map_id _
  rw [hfree]
  refine ⟨by simpa using hwanted.filter _, fun f => ?_⟩
  simp

/-! ## The order -/

/-- One of some fields reads another of them. -/
def ReadsAmong (g : Graph) (fields : List String) (f x : String) : Prop :=
  f ∈ fields ∧ x ∈ fields ∧ g.Reads f x

/-- One of some fields reads itself, directly or through others of them. -/
def CyclicAmong (g : Graph) (fields : List String) : Prop :=
  ∃ f, TransGen (g.ReadsAmong fields) f f

/-- An order of some fields: each stands in it once, after those of them that it reads. -/
structure Orders (g : Graph) (fields order : List String) : Prop where
  nodup : order.Nodup
  mem_iff : ∀ f, f ∈ order ↔ f ∈ fields
  after : ∀ before f rest, order = before ++ f :: rest →
    ∀ x ∈ g.requires.get f, x ∈ fields → x ∈ before

section
variable {fields order : List String}

theorem readsAmong_eraseDups (g : Graph) (fields : List String) :
    g.ReadsAmong fields.eraseDups = g.ReadsAmong fields := by
  funext f x
  simp [ReadsAmong]

theorem Acyclic.not_cyclicAmong (h : g.Acyclic) (fields : List String) :
    ¬ g.CyclicAmong fields := by
  rintro ⟨f, hf⟩
  exact h f (TransGen.mono (fun _ _ hread => hread.2.2) _ _ hf)

theorem Orders.idxOf_lt (h : g.Orders fields order) (hread : g.ReadsAmong fields f x) :
    order.idxOf x < order.idxOf f := by
  obtain ⟨before, rest, hsplit⟩ := List.append_of_mem ((h.mem_iff f).2 hread.1)
  have hx : x ∈ before := h.after before f rest hsplit x hread.2.2 hread.2.1
  have hf : f ∉ before := by
    have hnodup := h.nodup
    rw [hsplit] at hnodup
    exact fun hm => List.disjoint_of_nodup_append hnodup hm List.mem_cons_self
  have hlt := List.idxOf_lt_length_of_mem hx
  rw [hsplit, List.idxOf_append_of_mem hx, List.idxOf_append_of_notMem hf]
  omega

/-- Reading goes back in an order, so it does not come round. -/
theorem Orders.not_cyclicAmong (h : g.Orders fields order) : ¬ g.CyclicAmong fields := by
  rintro ⟨f, hf⟩
  have hback : ∀ x y, TransGen (g.ReadsAmong fields) x y → order.idxOf y < order.idxOf x := by
    intro x y hxy
    induction hxy with
    | single hread => exact h.idxOf_lt hread
    | tail _ hread ih => exact (h.idxOf_lt hread).trans ih
  exact lt_irrefl _ (hback f f hf)

/-- Some fields that do not read each other in a circle have one that reads none of them. -/
theorem exists_reads_none (h : ¬ g.CyclicAmong fields) {left : List String}
    (hleft : left ⊆ fields) (hne : left ≠ []) :
    ∃ f ∈ left, ∀ x ∈ g.requires.get f, x ∉ left := by
  let below : {f // f ∈ left} → {f // f ∈ left} → Prop :=
    fun x f => TransGen (g.ReadsAmong fields) f x
  have htrans : IsTrans _ below := ⟨fun _ _ _ hab hbc => hbc.trans hab⟩
  have hirrefl : Std.Irrefl below := ⟨fun f hf => h ⟨f, hf⟩⟩
  have hfinite : Finite {f // f ∈ left} := List.finite_toSet left
  have hwf : WellFounded below := Finite.wellFounded_of_trans_of_irrefl below
  obtain ⟨f₀, hf₀⟩ := List.exists_mem_of_ne_nil left hne
  obtain ⟨⟨f, hf⟩, -, hmin⟩ := hwf.has_min Set.univ ⟨⟨f₀, hf₀⟩, Set.mem_univ _⟩
  refine ⟨f, hf, fun x hx hxl => hmin ⟨x, hxl⟩ (Set.mem_univ _) (.single ?_)⟩
  exact ⟨hleft hf, hleft hxl, hx⟩

end

/-- What the loop takes in all when it orders some fields. -/
def taken (g : Graph) (wanted : List String) : List String :=
  takeFree g.dependents.get (wanted.length + 1)
    (((g.counters wanted []).filter (·.2 == 0)).map (·.1)) (g.counters wanted [])

theorem order_eq (g : Graph) (fields : List String) :
    g.order fields =
      if (g.taken fields.eraseDups).length = fields.eraseDups.length then
        g.taken fields.eraseDups
      else [] := by
  simp only [order, taken, counters, unmet_nil]

section
variable (hd : g.Distinct) (hc : g.Converse)
include hd hc

theorem taken_taking (hwanted : wanted.Nodup) :
    Taking g wanted (g.taken wanted) [] ∧
      ∀ l y r, g.taken wanted = l ++ y :: r →
        ∀ z ∈ g.requires.get y, z ∈ wanted → z ∈ l := by
  have h := takeFree_taking hd hc (taking_start hwanted)
    (show wanted.length < wanted.length + 1 + ([] : List String).length by simp)
  simpa [taken] using h

/-- What the loop takes is an order, if it takes as many fields as are wanted. -/
theorem orders_taken (hwanted : wanted.Nodup) (hlen : (g.taken wanted).length = wanted.length) :
    g.Orders wanted (g.taken wanted) := by
  obtain ⟨htaking, hafter⟩ := taken_taking hd hc hwanted
  have hnodup : (g.taken wanted).Nodup := by simpa using htaking.nodup
  have hsub : g.taken wanted ⊆ wanted := fun f hf => ((htaking.mem_iff f).1 (by simpa using hf)).1
  have hperm : (g.taken wanted).Perm wanted :=
    (List.subperm_of_subset hnodup hsub).perm_of_length_le hlen.ge
  exact ⟨hnodup, fun f => hperm.mem_iff, hafter⟩

/-- The loop takes all fields, unless they read each other in a circle. -/
theorem length_taken (hwanted : wanted.Nodup) (h : ¬ g.CyclicAmong wanted) :
    (g.taken wanted).length = wanted.length := by
  obtain ⟨htaking, -⟩ := taken_taking hd hc hwanted
  have hnodup : (g.taken wanted).Nodup := by simpa using htaking.nodup
  have hmem : ∀ f, f ∈ g.taken wanted ↔ f ∈ wanted := by
    intro f
    refine ⟨fun hf => ((htaking.mem_iff f).1 (by simpa using hf)).1, fun hf => ?_⟩
    by_contra hnot
    -- a field that was not taken reads another one that was not taken
    have hf' : f ∈ wanted.filter (!(g.taken wanted).contains ·) :=
      List.mem_filter.2 ⟨hf, by simpa using hnot⟩
    obtain ⟨y, hy, hnone⟩ :=
      exists_reads_none h (List.filter_subset_self wanted) (List.ne_nil_of_mem hf')
    obtain ⟨hyw, hyt⟩ := List.mem_filter.1 hy
    have hy0 : g.unmet wanted (g.taken wanted) y = 0 := by
      refine unmet_eq_zero_iff.2 fun x hx hxw => ?_
      by_contra hxt
      exact hnone x hx (List.mem_filter.2 ⟨hxw, by simpa using hxt⟩)
    have hyt' : y ∈ g.taken wanted := by simpa using (htaking.mem_iff y).2 ⟨hyw, hy0⟩
    simp [hyt'] at hyt
  exact ((List.perm_ext_iff_of_nodup hnodup hwanted).2 hmem).length_eq

/-- Fields that do not read each other in a circle are ordered. -/
theorem orders_order {fields : List String} (h : ¬ g.CyclicAmong fields) :
    g.Orders fields (g.order fields) := by
  have hwanted := Lists.nodup_eraseDups fields
  have hacyclic : ¬ g.CyclicAmong fields.eraseDups := by
    unfold CyclicAmong
    rwa [readsAmong_eraseDups]
  have hlen := length_taken hd hc hwanted hacyclic
  obtain ⟨hnodup, hmem, hafter⟩ := orders_taken hd hc hwanted hlen
  simp only [List.mem_eraseDups] at hmem hafter
  rw [order_eq, if_pos hlen]
  exact ⟨hnodup, hmem, hafter⟩

/-- Without cycles the order has every given field once, after all of those that it reads. -/
theorem order_of_acyclic (h : g.Acyclic) (fields : List String) :
    g.Orders fields (g.order fields) :=
  orders_order hd hc (h.not_cyclicAmong fields)

/-- Fields that read each other in a circle have no order. -/
theorem order_of_cyclicAmong {fields : List String} (h : g.CyclicAmong fields) :
    g.order fields = [] := by
  rw [order_eq]
  refine if_neg fun hlen => ?_
  refine (orders_taken hd hc (Lists.nodup_eraseDups fields) hlen).not_cyclicAmong ?_
  unfold CyclicAmong
  rwa [readsAmong_eraseDups]

/-- Whatever cycles a graph has, there is no order of fields just when there are no fields or they
read each other in a circle; otherwise the order has every field once, after those of the fields
that it reads. -/
theorem order_nil_or_orders (fields : List String) :
    (g.order fields = [] ↔ fields = [] ∨ g.CyclicAmong fields) ∧
      (¬ (fields = [] ∨ g.CyclicAmong fields) → g.Orders fields (g.order fields)) := by
  refine ⟨⟨fun hnil => ?_, ?_⟩, fun h => orders_order hd hc fun hcyclic => h (.inr hcyclic)⟩
  · refine or_iff_not_imp_right.2 fun hacyclic => ?_
    have hmem := (orders_order hd hc hacyclic).mem_iff
    rw [hnil] at hmem
    exact List.eq_nil_iff_forall_not_mem.2 fun f hf => List.not_mem_nil ((hmem f).2 hf)
  · rintro (rfl | hcyclic)
    · rfl
    · exact order_of_cyclicAmong hd hc hcyclic

end

/-- Two fields that read each other are in no order, other fields of the graph are. -/
theorem order_nil_or_orders_loop :
    let g := ofReadings [("a", "b"), ("b", "a"), ("d", "c")]
    g.CyclicAmong ["a", "b", "d"] ∧ g.Orders ["d", "c", "d"] ["c", "d"] := by
  intro g
  have hd : g.Distinct := distinct_ofReadings _
  have hc : g.Converse := converse_ofReadings _
  have hloop : g.order ["a", "b", "d"] = [] := by decide
  have hline : g.order ["d", "c", "d"] = ["c", "d"] := by decide
  refine ⟨((order_nil_or_orders hd hc _).1.1 hloop).resolve_left (by simp), ?_⟩
  rw [← hline]
  refine (order_nil_or_orders hd hc _).2 fun h => ?_
  have hnil := (order_nil_or_orders hd hc _).1.2 h
  rw [hline] at hnil
  cases hnil

end Graph

end RecordCalc.Dependency
