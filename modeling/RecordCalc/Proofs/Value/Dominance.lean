import RecordCalc.Proofs.Number.Limits
import RecordCalc.Proofs.Number.Nearest
import RecordCalc.Proofs.Number.Order
import RecordCalc.Value.Cell

/-
  The observation that dominates a cell: the first of those with the greatest time or, where no
  timestamp converts to a time, the first of all (`IsDominant`). One pass looks for it and keeps the
  leading observation with what its timestamp comes to (`Leads`). Not-a-number takes the lead like a
  time and gives way to none, so the pass finds the dominant observation just when not-a-number does
  not take it in vain (`IsMisled`) and no timestamp is too far for a floating-point number
  (`dominantValue_isDominant_iff`).
-/

namespace RecordCalc.Value

open Binary64 (isNaN place?)

/-- The time that a timestamp converts to, a number other than not-a-number. -/
def time? (timestamp : Value) : Option (WithBotTop ℚ) :=
  match timestampKey timestamp with
  | .ok (some x) => place? x
  | _ => none

/-- An observation is the first of those with the greatest time. -/
def IsLatest (observations : List (Value × Value)) (o : Value × Value) (time : WithBotTop ℚ) :
    Prop :=
  ∃ before after, observations = before ++ o :: after ∧ time? o.2 = some time ∧
    (∀ p ∈ before, ∀ t ∈ time? p.2, t < time) ∧ ∀ p ∈ after, ∀ t ∈ time? p.2, t ≤ time

/-- The value of the dominant observation: of the latest one or, where no timestamp converts to a
time, of the first, nothing for an empty cell. -/
def IsDominant (observations : List (Value × Value)) (v : Value) : Prop :=
  (∃ timestamp time, IsLatest observations (v, timestamp) time) ∨
    (∀ o ∈ observations, time? o.2 = none) ∧ v = (observations.head?.map Prod.fst).getD null

/-- A timestamp is not-a-number, and none of those before it can be read. -/
def Blocks (before : List Value) (timestamp : Value) : Prop :=
  (∀ t ∈ before, timestampKey t = .ok none) ∧
    ∃ x, timestampKey timestamp = .ok (some x) ∧ isNaN x = true

/-- Not-a-number is the first timestamp that can be read, though it is not the first of all or a
time comes behind it. -/
def IsMisled (timestamps : List Value) : Prop :=
  ∃ before t after, timestamps = before ++ t :: after ∧ Blocks before t ∧
    (before ≠ [] ∨ ∃ u ∈ after, (time? u).isSome)

/-! ## Timestamps -/

section
variable {t : Value} {key : Option Float}

theorem time?_of_key (h : timestampKey t = .ok key) : time? t = key.bind place? := by
  rw [time?, h]
  cases key <;> rfl

theorem time?_of_isNaN {x : Float} (h : timestampKey t = .ok (some x)) (hx : isNaN x = true) :
    time? t = none := by
  rw [time?_of_key h]
  exact Binary64.place?_eq_none_iff.2 hx

/-- Only an integer beyond the floating-point numbers does not convert. -/
theorem fails_timestampKey (t : Value) :
    Fails (timestampKey t) ↔ ∃ n : Number, t = number n ∧ n.IsFar := by
  cases t with
  | number n =>
    rw [timestampKey, fails_map, Number.fails_toFloat]
    simp
  | _ => exact iff_of_false nofun (by simp)

/-- The leading observation gives way just to a later time. -/
theorem givesWay_some_iff {x : Float} :
    givesWay (some x) key = true ↔
      ∃ p q, place? x = some p ∧ key.bind place? = some q ∧ p < q := by
  cases key with
  | none => exact iff_of_false nofun (by simp)
  | some y => rw [givesWay, decide_eq_true_iff, Binary64.lt_iff_place]; rfl

end

/-! ## The latest observation -/

section
variable {seen : List (Value × Value)} {o next : Value × Value} {time : WithBotTop ℚ}

theorem IsLatest.le (h : IsLatest seen o time) {p : Value × Value} (hp : p ∈ seen)
    {t : WithBotTop ℚ} (ht : time? p.2 = some t) : t ≤ time := by
  obtain ⟨before, after, rfl, ho, hbefore, hafter⟩ := h
  rcases List.mem_append.1 hp with hp | hp
  · exact (hbefore p hp t ht).le
  rcases List.mem_cons.1 hp with rfl | hp
  · exact (Option.some.inj (ht.symm.trans ho)).le
  · exact hafter p hp t ht

/-- An observation that is not later than the latest one is added. -/
theorem IsLatest.concat (h : IsLatest seen o time) (hnext : ∀ t ∈ time? next.2, t ≤ time) :
    IsLatest (seen ++ [next]) o time := by
  obtain ⟨before, after, rfl, ho, hbefore, hafter⟩ := h
  refine ⟨before, after ++ [next], by simp, ho, hbefore, fun p hp => ?_⟩
  rcases List.mem_append.1 hp with hp | hp
  · exact hafter p hp
  · obtain rfl := List.mem_singleton.1 hp
    exact hnext

/-- An observation that is later than all before it is added. -/
theorem isLatest_concat (hseen : ∀ p ∈ seen, ∀ t ∈ time? p.2, t < time)
    (hnext : time? next.2 = some time) : IsLatest (seen ++ [next]) next time :=
  ⟨seen, [], rfl, hnext, hseen, nofun⟩

end

/-! ## One pass over the observations -/

/-- What a pass has come to: the value of the leading observation of those seen, and what its
timestamp comes to. -/
inductive Leads (seen : List (Value × Value)) (best : Value) : Option Float → Prop
  /-- No timestamp can be read, and the first observation leads. -/
  | first (unread : ∀ o ∈ seen, timestampKey o.2 = .ok none)
      (head : seen.head?.map Prod.fst = some best) : Leads seen best none
  /-- The latest observation leads. -/
  | latest {t x time} (latest : IsLatest seen (best, t) time) (place : place? x = some time) :
      Leads seen best (some x)
  /-- Not-a-number leads. -/
  | blocked {before t after x} (split : seen = before ++ (best, t) :: after)
      (blocks : Blocks (before.map Prod.snd) t) (notANumber : isNaN x = true) :
      Leads seen best (some x)

section
variable {seen rest observations before after : List (Value × Value)} {best v w s t : Value}
  {key next : Option Float} {x : Float}

theorem not_givesWay_of_isNaN (hx : isNaN x = true) : ¬ givesWay (some x) key = true := by
  rw [givesWay_some_iff]
  rintro ⟨p, -, hp, -⟩
  rw [Binary64.place?_eq_none_iff.2 hx] at hp
  cases hp

/-- The first timestamp that can be read leads, be it a time or not-a-number. -/
theorem leads_concat (unread : ∀ o ∈ seen, timestampKey o.2 = .ok none) (w : Value)
    (hs : timestampKey s = .ok (some x)) : Leads (seen ++ [(w, s)]) w (some x) := by
  cases hplace : place? x with
  | none =>
    have hx := Binary64.place?_eq_none_iff.1 hplace
    exact .blocked rfl ⟨List.forall_mem_map.2 unread, x, hs, hx⟩ hx
  | some time =>
    refine .latest (isLatest_concat (fun o ho u hu => ?_) ((time?_of_key hs).trans hplace)) hplace
    rw [time?_of_key (unread o ho)] at hu
    cases hu

/-- One observation more. -/
theorem Leads.step (h : Leads seen best key) (w : Value) (hnext : timestampKey s = .ok next) :
    if givesWay key next then Leads (seen ++ [(w, s)]) w next
    else Leads (seen ++ [(w, s)]) best key := by
  have htime : time? s = next.bind place? := time?_of_key hnext
  cases h with
  | first unread head =>
    cases next with
    | none =>
      refine .first (List.forall_mem_append.2 ⟨unread, List.forall_mem_singleton.2 hnext⟩) ?_
      rw [List.head?_append, Option.map_or, head]
      rfl
    | some x => exact leads_concat unread w hnext
  | latest latest place =>
    -- a later time is later than all seen, the leading one being the latest of them
    split
    next hgives =>
      obtain ⟨p, q, hp, hq, hlt⟩ := givesWay_some_iff.1 hgives
      obtain rfl := Option.some.inj (place.symm.trans hp)
      obtain ⟨y, rfl, hy⟩ := Option.bind_eq_some_iff.1 hq
      exact .latest (isLatest_concat (fun o ho u hu => (latest.le ho hu).trans_lt hlt)
        (htime.trans hq)) hy
    next hstays =>
      refine .latest (latest.concat fun u hu => not_lt.1 fun hlt => hstays ?_) place
      exact givesWay_some_iff.2 ⟨_, u, place, htime.symm.trans hu, hlt⟩
  | blocked split blocks notANumber =>
    rw [if_neg (not_givesWay_of_isNaN notANumber)]
    exact .blocked (by rw [split, List.append_assoc, List.cons_append]) blocks notANumber

/-- All observations that are left. -/
theorem Leads.run (h : Leads seen best key) (hv : dominantFrom best key rest = .ok v) :
    ∃ last, Leads (seen ++ rest) v last := by
  induction rest generalizing seen best key with
  | nil =>
    cases hv
    exact ⟨key, (List.append_nil seen).symm ▸ h⟩
  | cons o rest ih =>
    obtain ⟨next, hnext, hv⟩ := Outcomes.bind_eq_ok_iff.1 hv
    have hstep := h.step o.1 hnext
    rw [List.append_cons]
    split at hv
    next hgives => exact ih ((if_pos hgives).mp hstep) hv
    next hstays => exact ih ((if_neg hstays).mp hstep) hv

theorem leads_of_dominantValue {o : Value × Value}
    (hv : dominantValue (o :: rest) = .ok v) : ∃ last, Leads (o :: rest) v last := by
  obtain ⟨key, hkey, hv⟩ := Outcomes.bind_eq_ok_iff.1 hv
  have hfirst : Leads [o] o.1 key := by
    cases key with
    | none => exact .first (List.forall_mem_singleton.2 hkey) rfl
    | some x => exact leads_concat (List.forall_mem_nil _) o.1 hkey
  exact hfirst.run hv

/-! ## What the pass comes to -/

theorem fails_dominantFrom :
    Fails (dominantFrom best key rest) ↔ ∃ o ∈ rest, Fails (timestampKey o.2) := by
  induction rest generalizing best key with
  | nil => exact iff_of_false (not_fails_ok best) (by simp)
  | cons o rest ih =>
    rw [dominantFrom, fails_andThen (q := ∃ p ∈ rest, Fails (timestampKey p.2))]
    · simp
    · intro next
      split
      · exact ih
      · exact ih

/-- The pass fails just when a timestamp is too far. -/
theorem fails_dominantValue :
    Fails (dominantValue observations) ↔
      ∃ n : Number, number n ∈ observations.map Prod.snd ∧ n.IsFar := by
  have hfails : Fails (dominantValue observations) ↔
      ∃ o ∈ observations, Fails (timestampKey o.2) := by
    cases observations with
    | nil => exact iff_of_false (not_fails_ok null) (by simp)
    | cons o rest =>
      rw [dominantValue, fails_andThen fun key => fails_dominantFrom]
      simp
  rw [hfails]
  constructor
  · rintro ⟨o, ho, h⟩
    obtain ⟨n, hn, hfar⟩ := (fails_timestampKey o.2).1 h
    exact ⟨n, hn ▸ List.mem_map_of_mem ho, hfar⟩
  · rintro ⟨n, hn, hfar⟩
    obtain ⟨o, ho, hn⟩ := List.mem_map.1 hn
    exact ⟨o, ho, (fails_timestampKey o.2).2 ⟨n, hn, hfar⟩⟩

/-- Observations that cannot be read do not change who leads. -/
theorem dominantFrom_unread (h : ∀ o ∈ before, timestampKey o.2 = .ok none) :
    dominantFrom best key (before ++ rest) = dominantFrom best key rest := by
  induction before with
  | nil => rfl
  | cons o before ih =>
    obtain ⟨ho, h⟩ := List.forall_mem_cons.1 h
    rw [List.cons_append, dominantFrom, ho, Outcomes.ok_bind, if_neg (by cases key <;> nofun), ih h]

/-- Not-a-number leads to the end. -/
theorem eq_of_isNaN (hx : isNaN x = true) (hv : dominantFrom best (some x) rest = .ok v) :
    v = best := by
  induction rest with
  | nil =>
    cases hv
    rfl
  | cons o rest ih =>
    obtain ⟨next, -, hv⟩ := Outcomes.bind_eq_ok_iff.1 hv
    rw [if_neg (not_givesWay_of_isNaN hx)] at hv
    exact ih hv

/-- Not-a-number with none before it that can be read leads to the end. -/
theorem eq_of_blocks (h : Blocks (before.map Prod.snd) t)
    (hw : dominantValue (before ++ (v, t) :: after) = .ok w) : w = v := by
  obtain ⟨hunread, x, ht, hx⟩ := h
  cases before with
  | nil =>
    obtain ⟨key, hkey, hw⟩ := Outcomes.bind_eq_ok_iff.1 hw
    obtain rfl := Except.ok.inj (ht.symm.trans hkey)
    exact eq_of_isNaN hx hw
  | cons o before =>
    obtain ⟨ho, hunread⟩ := List.forall_mem_cons.1 hunread
    rw [List.cons_append, dominantValue, ho, Outcomes.ok_bind,
      dominantFrom_unread (List.forall_mem_map.1 hunread), dominantFrom, ht] at hw
    exact eq_of_isNaN hx hw

end

/-! ## The dominant observation -/

section
variable {observations before after : List (Value × Value)} {o p : Value × Value} {v w t : Value}
  {key : Option Float} {time later : WithBotTop ℚ}

theorem IsLatest.mem (h : IsLatest observations o time) :
    o ∈ observations ∧ time? o.2 = some time := by
  obtain ⟨before, after, rfl, htime, -⟩ := h
  exact ⟨List.mem_append_right _ List.mem_cons_self, htime⟩

theorem IsLatest.unique (ho : IsLatest observations o time) (hp : IsLatest observations p later) :
    o = p := by
  obtain rfl : time = later := le_antisymm (hp.le ho.mem.1 ho.mem.2) (ho.le hp.mem.1 hp.mem.2)
  obtain ⟨before, after, rfl, htime, hbefore, -⟩ := ho
  obtain ⟨before', after', hsplit, htime', hbefore', -⟩ := hp
  -- neither stands before the other, where all times are less
  rcases List.append_eq_append_iff.1 hsplit with ⟨l, rfl, h⟩ | ⟨l, rfl, h⟩
  · cases l with
    | nil => exact (List.cons.inj h).1
    | cons q l =>
      obtain ⟨rfl, -⟩ := List.cons.inj h
      exact absurd (hbefore' o (by simp) time htime) (lt_irrefl time)
  · cases l with
    | nil => exact (List.cons.inj h).1.symm
    | cons q l =>
      obtain ⟨rfl, -⟩ := List.cons.inj h
      exact absurd (hbefore p (by simp) time htime') (lt_irrefl time)

/-- Where a timestamp converts to a time, the dominant observation has one that is not less. -/
theorem IsDominant.exists_time (h : IsDominant observations v) (hp : p ∈ observations)
    (hpt : time? p.2 = some time) :
    ∃ t later, (v, t) ∈ observations ∧ time? t = some later ∧ time ≤ later := by
  rcases h with ⟨t, later, h⟩ | ⟨hnone, -⟩
  · exact ⟨t, later, h.mem.1, h.mem.2, h.le hp hpt⟩
  · rw [hnone p hp] at hpt
    cases hpt

theorem IsDominant.unique (hv : IsDominant observations v) (hw : IsDominant observations w) :
    v = w := by
  rcases hv with ⟨t, time, hv⟩ | ⟨hnone, rfl⟩
  · rcases hw with ⟨u, later, hw⟩ | ⟨hnone, -⟩
    · exact congrArg Prod.fst (hv.unique hw)
    · cases (hnone _ hv.mem.1).symm.trans hv.mem.2
  · rcases hw with ⟨u, later, hw⟩ | ⟨-, rfl⟩
    · cases (hnone _ hw.mem.1).symm.trans hw.mem.2
    · rfl

/-- Not-a-number that leads without misleading is the first of observations without a time. -/
theorem isDominant_of_blocks (hsplit : observations = before ++ (v, t) :: after)
    (hblocks : Blocks (before.map Prod.snd) t)
    (hmisled : ¬ IsMisled (observations.map Prod.snd)) : IsDominant observations v := by
  subst hsplit
  obtain rfl : before = [] := by
    by_contra hne
    exact hmisled ⟨_, t, _, List.map_append, hblocks, .inl (by simpa using hne)⟩
  have hafter : ∀ o ∈ after, time? o.2 = none := by
    intro o ho
    by_contra htime
    exact hmisled ⟨[], t, _, rfl, hblocks,
      .inr ⟨o.2, List.mem_map_of_mem ho, Option.isSome_iff_ne_none.2 htime⟩⟩
  obtain ⟨-, x, hx, hnan⟩ := hblocks
  exact .inr ⟨List.forall_mem_cons.2 ⟨time?_of_isNaN hx hnan, hafter⟩, rfl⟩

/-- The observation that leads at the end dominates, unless not-a-number misleads. -/
theorem Leads.isDominant (h : Leads observations v key)
    (hmisled : ¬ IsMisled (observations.map Prod.snd)) : IsDominant observations v := by
  cases h with
  | first unread head =>
    refine .inr ⟨fun o ho => time?_of_key (unread o ho), ?_⟩
    rw [head]
    rfl
  | latest latest place => exact .inl ⟨_, _, latest⟩
  | blocked split blocks notANumber => exact isDominant_of_blocks split blocks hmisled

theorem isDominant_of_dominantValue (hv : dominantValue observations = .ok v)
    (hmisled : ¬ IsMisled (observations.map Prod.snd)) : IsDominant observations v := by
  cases observations with
  | nil =>
    cases hv
    exact .inr ⟨nofun, rfl⟩
  | cons o rest =>
    obtain ⟨key, hleads⟩ := leads_of_dominantValue hv
    exact hleads.isDominant hmisled

end

/-! ## Where not-a-number misleads -/

/-- Observations at given timestamps, of which only the one between the others is true. -/
def singledOut (before : List Value) (t : Value) (after : List Value) : List (Value × Value) :=
  before.map (fun u => (bool false, u)) ++ (bool true, t) :: after.map (fun u => (bool false, u))

theorem map_snd_singledOut (before : List Value) (t : Value) (after : List Value) :
    (singledOut before t after).map Prod.snd = before ++ t :: after := by
  simp [singledOut]

/-- Where not-a-number misleads, it does not dominate. -/
theorem not_isDominant_singledOut {before after : List Value} {t : Value}
    (hblocks : Blocks before t) (hwrong : before ≠ [] ∨ ∃ u ∈ after, (time? u).isSome) :
    ¬ IsDominant (singledOut before t after) (bool true) := by
  intro h
  obtain ⟨-, x, hx, hnan⟩ := hblocks
  -- a time would make another observation dominate, and those are false
  have htimeless : ∀ p ∈ singledOut before t after, time? p.2 = none := by
    intro p hp
    by_contra htime
    obtain ⟨time, htime⟩ := Option.ne_none_iff_exists'.1 htime
    obtain ⟨u, later, hu, hlater, -⟩ := h.exists_time hp htime
    obtain rfl : u = t := by simpa [singledOut] using hu
    rw [time?_of_isNaN hx hnan] at hlater
    cases hlater
  rcases h with ⟨u, time, h⟩ | ⟨-, hfirst⟩
  · cases (htimeless _ h.mem.1).symm.trans h.mem.2
  · cases before with
    | nil =>
      obtain ⟨u, hu, htime⟩ := hwrong.resolve_left (by simp)
      rw [htimeless (bool false, u) (by simp [singledOut, hu])] at htime
      cases htime
    | cons u before => cases hfirst

/-- The pass finds the dominant observation, whatever the values observed, just when no timestamp is
too far and not-a-number does not mislead it. -/
theorem dominantValue_isDominant_iff (timestamps : List Value) :
    (∀ observations, observations.map Prod.snd = timestamps →
        ∃ v, dominantValue observations = .ok v ∧ ∀ w, IsDominant observations w ↔ w = v) ↔
      (¬ ∃ n : Number, number n ∈ timestamps ∧ n.IsFar) ∧ ¬ IsMisled timestamps := by
  constructor
  · intro h
    constructor
    · intro hfar
      have hstamps : (timestamps.map fun t => (null, t)).map Prod.snd = timestamps := by simp
      obtain ⟨v, hv, -⟩ := h _ hstamps
      exact absurd (fails_dominantValue.2 (hstamps.symm ▸ hfar)) (not_fails_iff.2 ⟨v, hv⟩)
    · rintro ⟨before, t, after, rfl, hblocks, hwrong⟩
      obtain ⟨v, hv, hdominant⟩ := h (singledOut before t after) (map_snd_singledOut before t after)
      have hmark : v = bool true := eq_of_blocks (by simpa using hblocks) hv
      exact not_isDominant_singledOut hblocks hwrong ((hdominant _).2 hmark.symm)
  · rintro ⟨hfar, hmisled⟩ observations rfl
    obtain ⟨v, hv⟩ := not_fails_iff.1 (mt fails_dominantValue.1 hfar)
    have hdominant := isDominant_of_dominantValue hv hmisled
    exact ⟨v, hv, fun w => ⟨fun hw => hw.unique hdominant, fun hw => hw ▸ hdominant⟩⟩

/-- Not-a-number that comes first hides the times behind it. -/
theorem not_dominantValue_isDominant_notANumber :
    let observations : List (Value × Value) := [(int 1, float Binary64.nan), (int 2, int 5)]
    dominantValue observations = .ok (int 1) ∧ IsDominant observations (int 2) ∧
      ¬ IsDominant observations (int 1) := by
  intro observations
  have hnan : isNaN Binary64.nan = true := by decide
  obtain ⟨x, hx, hvalue⟩ := Binary64.ofInt?_eq_some (n := 5) (by decide)
  have hkey : timestampKey (int 5) = .ok (some x) := by
    change some <$> Number.floatOfInt 5 = .ok (some x)
    rw [Number.floatOfInt, hx]
    rfl
  have hdominant : IsDominant observations (int 2) := by
    refine .inl ⟨int 5, _, [(int 1, float Binary64.nan)], [], rfl,
      (time?_of_key hkey).trans (Binary64.place?_of_value? hvalue), ?_, List.forall_mem_nil _⟩
    rw [List.forall_mem_singleton, time?_of_isNaN rfl hnan]
    simp
  have hled : dominantValue observations = .ok (int 1) := by
    change dominantFrom (int 1) (some Binary64.nan) [(int 2, int 5)] = _
    rw [dominantFrom, hkey, Outcomes.ok_bind, if_neg (not_givesWay_of_isNaN hnan)]
    rfl
  refine ⟨hled, hdominant, fun h => ?_⟩
  cases h.unique hdominant

end RecordCalc.Value
