import Mathlib.Data.List.Nodup
import Mathlib.Data.List.Perm.Subperm
import Mathlib.Logic.Relation
import RecordCalc.Dependency.Search

/-
  The search `spread` in a graph given by the successors of a node. With enough steps it finds
  exactly what can be reached from its start (`mem_spread_iff`), each node once (`nodup_spread`).
  Enough is the number of nodes of a list that holds the start and every successor.
-/

namespace RecordCalc.Dependency

open Relation (ReflTransGen)

/-- One step from a node to a successor. -/
def Leads (next : String → List String) (x y : String) : Prop := y ∈ next x

variable {next : String → List String}

theorem seen_prefix_spread (steps : Nat) (queue seen : List String) :
    seen <+: spread next steps queue seen := by
  induction steps generalizing queue seen with
  | zero => exact List.prefix_rfl
  | succ n ih =>
    cases queue with
    | nil => exact List.prefix_rfl
    | cons x queue => exact (List.prefix_append _ _).trans (ih _ _)

/-- Everything found can be reached from what was seen. -/
theorem reached_of_mem_spread {steps : Nat} {queue seen : List String} {y : String}
    (hqueue : ∀ x ∈ queue, x ∈ seen) (hy : y ∈ spread next steps queue seen) :
    ∃ s ∈ seen, ReflTransGen (Leads next) s y := by
  induction steps generalizing queue seen with
  | zero => exact ⟨y, hy, .refl⟩
  | succ n ih =>
    cases queue with
    | nil => exact ⟨y, hy, .refl⟩
    | cons x queue =>
      rw [spread] at hy
      obtain ⟨s, hs, hsy⟩ := ih (fun z hz => by
        rcases List.mem_append.1 hz with hz | hz
        · exact List.mem_append_left _ (hqueue z (List.mem_cons_of_mem _ hz))
        · exact List.mem_append_right _ hz) hy
      rcases List.mem_append.1 hs with hs | hs
      · exact ⟨s, hs, hsy⟩
      · exact ⟨x, hqueue x List.mem_cons_self, .head (List.mem_of_mem_filter hs) hsy⟩

/-- What a search keeps from step to step: the queue was seen, the successors of what has left the
queue were seen, and nothing was seen twice or outside of `nodes`. -/
structure Searching (next : String → List String) (nodes queue seen : List String) : Prop where
  queue_seen : ∀ x ∈ queue, x ∈ seen
  closed : ∀ x ∈ seen, x ∉ queue → ∀ y ∈ next x, y ∈ seen
  nodup : seen.Nodup
  seen_nodes : ∀ x ∈ seen, x ∈ nodes

namespace Searching

variable {nodes queue seen : List String} {x : String}

theorem start (h : seen.Nodup) (hnodes : ∀ x ∈ seen, x ∈ nodes) :
    Searching next nodes seen seen :=
  ⟨fun _ hx => hx, fun _ hx hn => absurd hx hn, h, hnodes⟩

theorem step (hdistinct : (next x).Nodup) (hnext : ∀ y ∈ next x, y ∈ nodes)
    (h : Searching next nodes (x :: queue) seen) :
    Searching next nodes (queue ++ (next x).filter (!seen.contains ·))
      (seen ++ (next x).filter (!seen.contains ·)) where
  queue_seen z hz := by
    rcases List.mem_append.1 hz with hz | hz
    · exact List.mem_append_left _ (h.queue_seen z (List.mem_cons_of_mem _ hz))
    · exact List.mem_append_right _ hz
  closed z hz hq y hy := by
    rw [List.mem_append, not_or] at hq
    have hzs : z ∈ seen := (List.mem_append.1 hz).resolve_right hq.2
    by_cases hys : y ∈ seen
    · exact List.mem_append_left _ hys
    · by_cases hzx : z = x
      · exact List.mem_append_right _ (List.mem_filter.2 ⟨hzx ▸ hy, by simpa using hys⟩)
      · have hzq : z ∉ x :: queue := by simp [hzx, hq.1]
        exact absurd (h.closed z hzs hzq y hy) hys
  nodup := by
    refine h.nodup.append (hdistinct.filter _) ?_
    intro z hz hf
    simpa [hz] using (List.mem_filter.1 hf).2
  seen_nodes z hz := by
    rcases List.mem_append.1 hz with hz | hz
    · exact h.seen_nodes z hz
    · exact hnext z (List.mem_of_mem_filter hz)

theorem length_seen_le (h : Searching next nodes queue seen) : seen.length ≤ nodes.length :=
  (List.subperm_of_subset h.nodup h.seen_nodes).length_le

end Searching

variable {nodes : List String}

/-- A search with enough steps ends with an empty queue: what it found is closed under successors,
and nothing was found twice. -/
theorem spread_closed (hdistinct : ∀ x, (next x).Nodup) (hnext : ∀ x, ∀ y ∈ next x, y ∈ nodes)
    {steps : Nat} {queue seen : List String} (h : Searching next nodes queue seen)
    (hsteps : queue.length + nodes.length ≤ steps + seen.length) :
    (∀ x ∈ spread next steps queue seen, ∀ y ∈ next x, y ∈ spread next steps queue seen) ∧
      (spread next steps queue seen).Nodup := by
  induction steps generalizing queue seen with
  | zero =>
    have hlen := h.length_seen_le
    have hq : queue = [] := List.length_eq_zero_iff.1 (by omega)
    subst hq
    exact ⟨fun x hx => h.closed x hx List.not_mem_nil, h.nodup⟩
  | succ n ih =>
    cases queue with
    | nil => exact ⟨fun x hx => h.closed x hx List.not_mem_nil, h.nodup⟩
    | cons x queue =>
      refine ih (h.step (hdistinct x) (hnext x)) ?_
      simp only [List.length_append, List.length_cons] at hsteps ⊢
      omega

section
variable (hdistinct : ∀ x, (next x).Nodup) (hnext : ∀ x, ∀ y ∈ next x, y ∈ nodes)
  {steps : Nat} {start : List String} (hstart : start.Nodup) (hnodes : ∀ x ∈ start, x ∈ nodes)
  (hsteps : nodes.length ≤ steps)
include hdistinct hnext hstart hnodes hsteps

theorem mem_spread_iff {y : String} :
    y ∈ spread next steps start start ↔ ∃ s ∈ start, ReflTransGen (Leads next) s y := by
  refine ⟨reached_of_mem_spread fun _ hx => hx, ?_⟩
  rintro ⟨s, hs, hsy⟩
  have hfuel : start.length + nodes.length ≤ steps + start.length := by omega
  have hclosed := (spread_closed hdistinct hnext (.start hstart hnodes) hfuel).1
  induction hsy with
  | refl => exact (seen_prefix_spread _ _ _).subset hs
  | tail _ hyz ih => exact hclosed _ ih _ hyz

theorem nodup_spread : (spread next steps start start).Nodup := by
  have hfuel : start.length + nodes.length ≤ steps + start.length := by omega
  exact (spread_closed hdistinct hnext (.start hstart hnodes) hfuel).2

end

end RecordCalc.Dependency
