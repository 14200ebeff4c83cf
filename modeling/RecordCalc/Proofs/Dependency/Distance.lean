import Mathlib.Order.Lattice.Nat
import RecordCalc.Proofs.Dependency.Acyclic

/-
  Affected fields by distance. `distance` is the length of a shortest way. A search takes nodes from
  its queue in the order of their distance from its start: everything seen is at most one step
  farther than the head of the queue (`Layered`), and whatever is nearer than the head has left the
  queue (`seen_of_lt`), so what the head leads to for the first time is one step farther than it,
  neither more nor less (`distance_fresh`). Hence nearer fields come first (`affected_by_distance`),
  also in a graph with cycles.
-/

namespace RecordCalc.Dependency

open Relation (ReflTransGen TransGen)

/-! ## Ways and their length -/

/-- A way of so many steps leads from one to another. -/
inductive InSteps {α : Type} (r : α → α → Prop) (a : α) : Nat → α → Prop
  | refl : InSteps r a 0 a
  | tail {n : Nat} {b c : α} : InSteps r a n b → r b c → InSteps r a (n + 1) c

/-- The length of a shortest way from one to another. -/
noncomputable def distance {α : Type} (r : α → α → Prop) (a b : α) : Nat :=
  sInf {n | InSteps r a n b}

/-- None of a list is farther from the start than one behind it. -/
def ByDistance {α : Type} (r : α → α → Prop) (start : α) (l : List α) : Prop :=
  l.Pairwise fun b c => distance r start b ≤ distance r start c

section
variable {α : Type} {r : α → α → Prop} {a b c : α} {n : Nat}

theorem InSteps.head (hab : r a b) (hbc : InSteps r b n c) : InSteps r a (n + 1) c := by
  induction hbc with
  | refl => exact .tail .refl hab
  | tail _ hcd ih => exact .tail ih hcd

/-- A way back is as long. -/
theorem InSteps.swap (h : InSteps r a n b) : InSteps (Function.swap r) b n a := by
  induction h with
  | refl => exact .refl
  | tail _ hbc ih => exact .head hbc ih

theorem InSteps.reflTransGen (h : InSteps r a n b) : ReflTransGen r a b := by
  induction h with
  | refl => exact .refl
  | tail _ hbc ih => exact ih.tail hbc

theorem exists_inSteps (h : ReflTransGen r a b) : ∃ n, InSteps r a n b := by
  induction h with
  | refl => exact ⟨0, .refl⟩
  | tail _ hbc ih =>
    obtain ⟨n, hn⟩ := ih
    exact ⟨n + 1, .tail hn hbc⟩

theorem distance_swap (r : α → α → Prop) (a b : α) :
    distance (Function.swap r) a b = distance r b a :=
  congrArg sInf (Set.ext fun _ => ⟨InSteps.swap, InSteps.swap⟩)

theorem distance_le (h : InSteps r a n b) : distance r a b ≤ n := Nat.sInf_le h

theorem inSteps_distance (h : ReflTransGen r a b) : InSteps r a (distance r a b) b :=
  Nat.sInf_mem (exists_inSteps h)

theorem distance_self (r : α → α → Prop) (a : α) : distance r a a = 0 :=
  Nat.le_zero.1 (distance_le .refl)

theorem distance_le_succ (hab : ReflTransGen r a b) (hbc : r b c) :
    distance r a c ≤ distance r a b + 1 :=
  distance_le ((inSteps_distance hab).tail hbc)

/-- The last step but one of a shortest way is nearer by one. -/
theorem exists_nearer (h : ReflTransGen r a b) (hne : b ≠ a) :
    ∃ c, ReflTransGen r a c ∧ r c b ∧ distance r a b = distance r a c + 1 := by
  have hway := inSteps_distance h
  generalize hd : distance r a b = d at hway
  cases hway with
  | refl => exact absurd rfl hne
  | @tail n c _ hac hcb =>
    have hle := distance_le hac
    have hge := distance_le_succ hac.reflTransGen hcb
    exact ⟨c, hac.reflTransGen, hcb, by omega⟩

end

/-! ## The search goes by distance -/

/-- What a search from one node keeps: queue and findings go by distance, and the findings are at
most one step farther than the queue. -/
structure Layered (next : String → List String) (start : String) (queue seen : List String) :
    Prop where
  start_seen : start ∈ seen
  reached : ∀ y ∈ seen, ReflTransGen (Leads next) start y
  queue_sorted : ByDistance (Leads next) start queue
  seen_sorted : ByDistance (Leads next) start seen
  span : ∀ y ∈ seen, ∀ z ∈ queue, distance (Leads next) start y ≤ distance (Leads next) start z + 1

namespace Layered

variable {next : String → List String} {start x y z : String} {nodes queue seen : List String}

theorem single (next : String → List String) (start : String) :
    Layered next start [start] [start] where
  start_seen := List.mem_singleton_self start
  reached y hy := List.mem_singleton.1 hy ▸ .refl
  queue_sorted := List.pairwise_singleton _ _
  seen_sorted := List.pairwise_singleton _ _
  span y hy z _ := by
    rw [List.mem_singleton.1 hy, distance_self]
    exact Nat.zero_le _

theorem head_le (h : Layered next start (x :: queue) seen) (hy : y ∈ x :: queue) :
    distance (Leads next) start x ≤ distance (Leads next) start y := by
  rcases List.mem_cons.1 hy with rfl | hy
  · exact le_rfl
  · exact List.rel_of_pairwise_cons h.queue_sorted hy

theorem not_queued_of_lt (h : Layered next start (x :: queue) seen)
    (hlt : distance (Leads next) start y < distance (Leads next) start x) : y ∉ x :: queue :=
  fun hy => absurd (h.head_le hy) (Nat.not_le.2 hlt)

/-- What is nearer than the head of the queue was seen. -/
theorem seen_of_lt (hs : Searching next nodes (x :: queue) seen)
    (h : Layered next start (x :: queue) seen) (hy : ReflTransGen (Leads next) start y)
    (hlt : distance (Leads next) start y < distance (Leads next) start x) : y ∈ seen := by
  induction hd : distance (Leads next) start y using Nat.strong_induction_on generalizing y with
  | _ d ih =>
    by_cases hne : y = start
    · exact hne ▸ h.start_seen
    · -- the node before it on a shortest way has left the queue
      obtain ⟨p, hp, hlead, hdist⟩ := exists_nearer hy hne
      have hpx : distance (Leads next) start p < distance (Leads next) start x := by omega
      exact hs.closed p (ih _ (by omega) hp hpx rfl) (h.not_queued_of_lt hpx) y hlead

/-- What the head of the queue leads to for the first time is one step farther than the head. -/
theorem distance_fresh (hs : Searching next nodes (x :: queue) seen)
    (h : Layered next start (x :: queue) seen) (hz : z ∈ (next x).filter (!seen.contains ·)) :
    distance (Leads next) start z = distance (Leads next) start x + 1 := by
  obtain ⟨hlead, hnew⟩ := List.mem_filter.1 hz
  have hunseen : z ∉ seen := by simpa using hnew
  have hne : z ≠ start := fun he => hunseen (he ▸ h.start_seen)
  have hx := h.reached x (hs.queue_seen x List.mem_cons_self)
  have hle := distance_le_succ hx hlead
  obtain ⟨p, hp, hpz, hdist⟩ := exists_nearer (hx.tail hlead) hne
  -- a shorter way would end with a step from a node that has left the queue
  have hge : ¬ distance (Leads next) start p < distance (Leads next) start x := fun hlt =>
    hunseen (hs.closed p (h.seen_of_lt hs hp hlt) (h.not_queued_of_lt hlt) z hpz)
  omega

theorem step (hs : Searching next nodes (x :: queue) seen)
    (h : Layered next start (x :: queue) seen) :
    Layered next start (queue ++ (next x).filter (!seen.contains ·))
      (seen ++ (next x).filter (!seen.contains ·)) := by
  have hx : x ∈ seen := hs.queue_seen x List.mem_cons_self
  have hspan : ∀ y ∈ seen, distance (Leads next) start y ≤ distance (Leads next) start x + 1 :=
    fun y hy => h.span y hy x List.mem_cons_self
  have hfresh : ∀ z ∈ (next x).filter (!seen.contains ·),
      distance (Leads next) start z = distance (Leads next) start x + 1 :=
    fun z hz => h.distance_fresh hs hz
  have hfresh_sorted : ByDistance (Leads next) start ((next x).filter (!seen.contains ·)) :=
    List.pairwise_of_forall_mem_list fun y hy z hz => by rw [hfresh y hy, hfresh z hz]
  refine ⟨List.mem_append_left _ h.start_seen, ?_, ?_, ?_, ?_⟩
  · intro y hy
    rcases List.mem_append.1 hy with hy | hy
    · exact h.reached y hy
    · exact (h.reached x hx).tail (List.mem_of_mem_filter hy)
  · refine List.pairwise_append.2 ⟨h.queue_sorted.tail, hfresh_sorted, fun y hy z hz => ?_⟩
    rw [hfresh z hz]
    exact hspan y (hs.queue_seen y (List.mem_cons_of_mem _ hy))
  · refine List.pairwise_append.2 ⟨h.seen_sorted, hfresh_sorted, fun y hy z hz => ?_⟩
    rw [hfresh z hz]
    exact hspan y hy
  · -- nothing is farther than one step from the old head, and the queue has nothing nearer than it
    intro y hy z hz
    have hy' : distance (Leads next) start y ≤ distance (Leads next) start x + 1 := by
      rcases List.mem_append.1 hy with hy | hy
      · exact hspan y hy
      · exact (hfresh y hy).le
    have hz' : distance (Leads next) start x ≤ distance (Leads next) start z := by
      rcases List.mem_append.1 hz with hz | hz
      · exact h.head_le (List.mem_cons_of_mem _ hz)
      · exact Nat.le_of_lt (Nat.lt_of_succ_le (hfresh z hz).ge)
    exact hy'.trans (Nat.succ_le_succ hz')

/-- Whenever a search is broken off, what it has found goes by distance. -/
theorem sorted_spread (hdistinct : ∀ x, (next x).Nodup) (hnext : ∀ x, ∀ y ∈ next x, y ∈ nodes)
    (steps : Nat) (hs : Searching next nodes queue seen) (h : Layered next start queue seen) :
    ByDistance (Leads next) start (spread next steps queue seen) := by
  induction steps generalizing queue seen with
  | zero => exact h.seen_sorted
  | succ n ih =>
    cases queue with
    | nil => exact h.seen_sorted
    | cons x queue => exact ih (hs.step (hdistinct x) (hnext x)) (h.step hs)

end Layered

namespace Graph

variable {g : Graph}

theorem Converse.leads_eq (h : g.Converse) : Leads g.dependents.get = Function.swap g.Reads := by
  funext x f
  exact propext (h x f)

theorem sorted_affected (h : g.dependents.Distinct) (x : String) :
    ByDistance (Leads g.dependents.get) x (g.affected x) := by
  have hnext : ∀ y, ∀ z ∈ g.dependents.get y, z ∈ x :: g.dependents.values :=
    fun y z hz => List.mem_cons_of_mem _ (FieldMap.mem_values_of_mem_get hz)
  have hs : Searching g.dependents.get (x :: g.dependents.values) [x] [x] :=
    .start (List.nodup_singleton x) (by simp)
  have hsorted := Layered.sorted_spread h hnext (g.dependents.total + 1) hs (.single _ x)
  rw [← cons_affected] at hsorted
  exact hsorted.of_cons

/-- Whatever cycles a graph has, a change of a field affects just the other fields that read it,
directly or through others. Each is listed once, and none behind one that has a longer way to the
field. -/
theorem affected_by_distance (hd : g.Distinct) (hc : g.Converse) (x : String) :
    (∀ f, f ∈ g.affected x ↔ f ≠ x ∧ TransGen g.Reads f x) ∧ (g.affected x).Nodup ∧
      (g.affected x).Pairwise fun f f' => distance g.Reads f x ≤ distance g.Reads f' x := by
  refine ⟨fun f => ?_, nodup_affected hd.dependents x, ?_⟩
  · rw [mem_affected_iff hd.dependents, hc.leads_eq, Relation.reflTransGen_swap]
    refine and_congr_right fun hne => ?_
    rw [Relation.reflTransGen_iff_eq_or_transGen, or_iff_right hne.symm]
  · have hsorted := sorted_affected hd.dependents x
    simp only [ByDistance, hc.leads_eq, distance_swap] at hsorted
    exact hsorted

/-- Of two fields that read each other, the one affects the other; a field that reads the first comes
before one that reads the second, though the latter was recorded earlier. -/
theorem affected_by_distance_loop :
    let g := ofReadings [("d", "b"), ("b", "a"), ("a", "b"), ("c", "a")]
    g.affected "a" = ["b", "c", "d"] ∧ TransGen g.Reads "d" "a" ∧
      distance g.Reads "c" "a" ≤ distance g.Reads "d" "a" := by
  intro g
  have hlist : g.affected "a" = ["b", "c", "d"] := by decide
  obtain ⟨hmem, -, hsorted⟩ :=
    affected_by_distance (distinct_ofReadings _) (converse_ofReadings _) (g := g) "a"
  rw [hlist] at hmem hsorted
  refine ⟨hlist, ((hmem "d").1 (by simp)).2, ?_⟩
  exact List.rel_of_pairwise_cons hsorted.of_cons (by simp)

end Graph

end RecordCalc.Dependency
