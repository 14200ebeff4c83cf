import RecordCalc.Proofs.Formula.Grammar
import RecordCalc.Proofs.Outcomes

/-
  What the reader takes in is derived by the grammar. A state of reading stands for the tokens read
  so far: those of the open brackets, of the operands that wait, and of the last operand. Every step
  adds its token to them (`Reading.StandsFor.step`), and what the reader ends with is derived from
  all of them (`Reading.StandsFor.run`).
-/

namespace RecordCalc.Formula

/-! ## Operands that wait -/

/-- The tokens of a left operand of a level, if one waits. -/
inductive Waits (level : Level) : Waiting → List Token → Prop
  | nothing : Waits level none []
  | operand {ts : List Token} {e : Expr} {s : Symbol} {op : BinaryOp} : Derives level ts e →
      (s, op) ∈ level.operators → Waits level (some (e, op)) (ts ++ [.symbol s])

/-- The tokens of bases of powers that wait. -/
inductive Bases : List Expr → List Token → Prop
  | nil : Bases [] []
  | cons {es : List Expr} {ts us : List Token} {e : Expr} : Bases es ts → Derives .unary us e →
      Bases (e :: es) (ts ++ us ++ [.symbol .caret])

/-- The tokens of leading operators that wait. -/
inductive Leads : List UnaryOp → List Token → Prop
  | nil : Leads [] []
  | cons {ops : List UnaryOp} {ts : List Token} {s : Symbol} {op : UnaryOp} : Leads ops ts →
      (s, op) ∈ leadingOperators → Leads (op :: ops) (ts ++ [.symbol s])

/-- The tokens of all that waits in a bracket. -/
inductive Pending.StandsFor : Pending → List Token → Prop
  | mk {p : Pending} {cs ss ms bs ls : List Token} : Waits .comparison p.comparison cs →
      Waits .sum p.sum ss → Waits .product p.product ms → Bases p.powers bs → Leads p.leading ls →
      StandsFor p (cs ++ (ss ++ (ms ++ (bs ++ ls))))

section
variable {level tighter : Level} {w : Waiting} {p : Pending} {ts us : List Token} {e : Expr}

theorem Waits.derives (h : Waits level w ts) (hnext : level.next? = some tighter)
    (he : Derives tighter us e) : Derives level (ts ++ us) (Pending.join w e) := by
  cases h with
  | nothing => exact .next hnext he
  | operand hl hop =>
    rw [List.append_assoc]
    exact .left hnext hop hl he

theorem Bases.derives {es : List Expr} (h : Bases es ts) (he : Derives .power us e) :
    Derives .power (ts ++ us) (es.foldl (fun e base => .binary .power base e) e) := by
  induction h generalizing us e with
  | nil => exact he
  | cons _ hbase ih =>
    rw [List.append_assoc, List.append_assoc]
    exact ih (.power hbase he)

theorem Leads.derives {ops : List UnaryOp} (h : Leads ops ts) (he : Derives .unary us e) :
    Derives .unary (ts ++ us) (ops.foldl (fun e op => .unary op e) e) := by
  induction h generalizing us e with
  | nil => exact he
  | cons _ hop ih =>
    rw [List.append_assoc]
    exact ih (.unary hop he)

theorem Pending.standsFor_empty : Pending.empty.StandsFor [] :=
  .mk (p := .empty) .nothing .nothing .nothing .nil .nil

theorem Pending.eq_nil_of_standsFor_empty (h : Pending.empty.StandsFor ts) : ts = [] := by
  cases h with
  | mk hc hs hm hb hl =>
    cases hc
    cases hs
    cases hm
    cases hb
    cases hl
    rfl

/-- What waits and an operand close to what the grammar derives. -/
theorem Pending.StandsFor.derives_close (h : p.StandsFor ts) (he : Derives .primary us e) :
    Derives .comparison (ts ++ us) (p.close e) := by
  cases h with
  | mk hc hs hm hb hl =>
    simp only [List.append_assoc]
    have hunary := hl.derives (.next rfl he)
    have hpower := hb.derives (.next rfl hunary)
    have hproduct := hm.derives rfl hpower
    have hsum := hs.derives rfl hproduct
    exact hc.derives rfl hsum

/-- What waits after an operand and an operator stands for the tokens before and those of both. -/
theorem Pending.StandsFor.push (h : p.StandsFor ts) (he : Derives .primary us e) {s : Symbol}
    {rank : Rank} {op : BinaryOp} (hs : s.infix? = some (rank, op)) :
    (p.push e rank op).StandsFor (ts ++ us ++ [.symbol s]) := by
  cases h with
  | mk hc hs' hm hb hl =>
    have hunary := hl.derives (.next rfl he)
    have hpower := hb.derives (.next rfl hunary)
    have hproduct := hm.derives rfl hpower
    have hsum := hs'.derives rfl hproduct
    have hcomparison := hc.derives rfl hsum
    rcases mem_of_infix? hs with hop | ⟨rfl, rfl, rfl⟩
    · cases rank with
      | power => cases hop
      | comparison =>
        have hpush := mk (p := p.push e .comparison op) (.operand hcomparison hop) .nothing
          .nothing .nil .nil
        simpa only [List.append_assoc, List.append_nil] using hpush
      | sum =>
        have hpush := mk (p := p.push e .sum op) hc (.operand hsum hop) .nothing .nil .nil
        simpa only [List.append_assoc, List.append_nil] using hpush
      | product =>
        have hpush := mk (p := p.push e .product op) hc hs' (.operand hproduct hop) .nil .nil
        simpa only [List.append_assoc, List.append_nil] using hpush
    · have hpush := mk (p := p.push e .power .power) hc hs' hm (.cons hb hunary) .nil
      simpa only [List.append_assoc, List.append_nil] using hpush

theorem Pending.StandsFor.lead (h : p.StandsFor ts) {s : Symbol} {op : UnaryOp}
    (hop : (s, op) ∈ leadingOperators) :
    Pending.StandsFor { p with leading := op :: p.leading } (ts ++ [.symbol s]) := by
  cases h with
  | mk hc hs hm hb hl =>
    have hlead := mk (p := { p with leading := op :: p.leading }) hc hs hm hb (.cons hl hop)
    simpa only [List.append_assoc] using hlead

end

/-! ## Open brackets and the last operand -/

/-- Lists of tokens with a comma after each. -/
def terminated (lists : List (List Token)) : List Token :=
  lists.flatMap fun ts => ts ++ [.symbol .comma]

theorem separated_concat (lists : List (List Token)) (ts : List Token) :
    separated (lists ++ [ts]) = terminated lists ++ ts := by
  induction lists with
  | nil => exact separated_singleton ts
  | cons us lists ih =>
    cases lists with
    | nil => simp [terminated, separated_cons_cons, separated_singleton]
    | cons us' lists =>
      rw [List.cons_append, List.cons_append, separated_cons_cons, ← List.cons_append, ih]
      simp [terminated]

theorem forall_mem_concat {args : List (List Token × Expr)}
    (hargs : ∀ arg ∈ args, Derives .comparison arg.1 arg.2) {ts : List Token} {e : Expr}
    (he : Derives .comparison ts e) :
    ∀ arg ∈ args ++ [(ts, e)], Derives .comparison arg.1 arg.2 :=
  List.forall_mem_append.2 ⟨hargs, List.forall_mem_singleton.2 he⟩

/-- The tokens up to the innermost open bracket. -/
inductive Opened : List (Pending × Bracket) → List Token → Prop
  | nil : Opened [] []
  | group {brackets : List (Pending × Bracket)} {outer : Pending} {ts us : List Token} :
      Opened brackets ts → outer.StandsFor us →
      Opened ((outer, .group) :: brackets) (ts ++ us ++ [.symbol .opening])
  | call {brackets : List (Pending × Bracket)} {outer : Pending} {ts us : List Token}
      (letters : List Char) {args : List (List Token × Expr)} :
      Opened brackets ts → outer.StandsFor us →
      (∀ arg ∈ args, Derives .comparison arg.1 arg.2) →
      Opened ((outer, .call (callName letters) (args.map (·.2)).reverse) :: brackets)
        (ts ++ us ++ .name letters :: .symbol .opening :: terminated (args.map (·.1)))

/-- A call whose arguments are still to come has just its name and its bracket. -/
theorem Opened.of_call_nil {brackets : List (Pending × Bracket)} {outer : Pending} {name : String}
    {ts : List Token} (h : Opened ((outer, .call name []) :: brackets) ts) :
    ∃ letters ts' us, name = callName letters ∧ Opened brackets ts' ∧ outer.StandsFor us ∧
      ts = ts' ++ us ++ [.name letters, .symbol .opening] := by
  generalize hbracket : Bracket.call name [] = bracket at h
  cases h with
  | group => cases hbracket
  | @call _ _ ts' us letters args hbrackets houter hargs =>
    obtain ⟨rfl, hnil⟩ := Bracket.call.inj hbracket
    obtain rfl : args = [] := by simpa using hnil.symm
    exact ⟨letters, ts', us, rfl, hbrackets, houter, rfl⟩

/-- The tokens of the last operand. -/
inductive Phase.StandsFor : Phase → List Token → Prop
  | wanting (justOpened : Bool) : StandsFor (.wanting justOpened) []
  | numeral (n : Numeral) : StandsFor (.numeral n) [.numeral n]
  | name (letters : List Char) (position : Nat) : StandsFor (.name letters position) [.name letters]
  | operand {e : Expr} {ts : List Token} : Derives .primary ts e → StandsFor (.operand e) ts

namespace Reading

/-- The tokens read so far; the end of a call may follow only where it was just opened. -/
structure StandsFor (r : Reading) (ts : List Token) : Prop where
  parts : ∃ outer waiting operand, Opened r.brackets outer ∧ r.pending.StandsFor waiting ∧
    r.phase.StandsFor operand ∧ ts = outer ++ waiting ++ operand
  justOpened : r.phase = .wanting true → r.pending = .empty ∧
    ∃ outer name brackets, r.brackets = (outer, .call name []) :: brackets

variable {r r' : Reading} {t : Located} {e : Expr} {outer waiting us : List Token}

theorem standsFor_of_afterOperand (hbrackets : Opened r.brackets outer)
    (hpending : r.pending.StandsFor waiting) (he : Derives .primary us e)
    (h : r.afterOperand e t = .ok r') : r'.StandsFor (outer ++ waiting ++ us ++ [t.token]) := by
  obtain ⟨token, position⟩ := t
  obtain ⟨brackets, pending, phase⟩ := r
  have hclose := hpending.derives_close he
  unfold afterOperand at h
  dsimp only at h hbrackets hpending hclose ⊢
  split at h
  · -- a closing bracket
    cases hbrackets with
    | nil => cases h
    | group houter hwaiting =>
      cases h
      refine ⟨⟨_, _, _, houter, hwaiting, .operand (.group hclose), ?_⟩, fun h => nomatch h⟩
      simp only [List.append_assoc, List.cons_append, List.nil_append]
    | @call brackets outer ts ws letters args houter hwaiting hargs =>
      cases h
      have hcall := Derives.call letters (forall_mem_concat hargs hclose)
      rw [List.map_append, List.map_append, List.map_singleton, List.map_singleton,
        separated_concat] at hcall
      rw [List.reverse_cons, List.reverse_reverse]
      refine ⟨⟨_, _, _, houter, hwaiting, .operand hcall, ?_⟩, fun h => nomatch h⟩
      simp only [List.append_assoc, List.cons_append]
  · -- a comma
    cases hbrackets with
    | nil => cases h
    | group houter hwaiting => cases h
    | @call brackets outer ts ws letters args houter hwaiting hargs =>
      cases h
      have hcall := Opened.call letters houter hwaiting (forall_mem_concat hargs hclose)
      rw [List.map_append, List.map_append, List.map_singleton, List.map_singleton,
        List.reverse_append] at hcall
      refine ⟨⟨_, _, _, hcall, Pending.standsFor_empty, .wanting false, ?_⟩, fun h => nomatch h⟩
      simp only [terminated, List.flatMap_append, List.flatMap_singleton, List.append_assoc,
        List.cons_append, List.append_nil]
  · -- an operator
    split at h
    · next s _ _ rank op hs =>
      cases h
      refine ⟨⟨_, _, _, hbrackets, hpending.push he hs, .wanting false, ?_⟩, fun h => nomatch h⟩
      simp only [List.append_assoc, List.append_nil]
    · cases h
  · cases h

theorem standsFor_of_beforeOperand {justOpened : Bool} (hphase : r.phase = .wanting justOpened)
    {ts : List Token} (hr : r.StandsFor ts) (h : r.beforeOperand justOpened t = .ok r') :
    r'.StandsFor (ts ++ [t.token]) := by
  obtain ⟨token, position⟩ := t
  obtain ⟨brackets, pending, phase⟩ := r
  obtain ⟨⟨outer, waiting, operand, hbrackets, hpending, hoperand, rfl⟩, hjust⟩ := hr
  obtain rfl : phase = .wanting justOpened := hphase
  obtain rfl : operand = [] := by
    cases hoperand
    rfl
  rw [List.append_nil]
  unfold beforeOperand at h
  dsimp only at h hbrackets hpending hjust ⊢
  split at h
  · next n =>
    cases h
    exact ⟨⟨_, _, _, hbrackets, hpending, .numeral n, rfl⟩, fun h => nomatch h⟩
  · next letters =>
    cases h
    exact ⟨⟨_, _, _, hbrackets, hpending, .name letters position, rfl⟩, fun h => nomatch h⟩
  · next quote body =>
    cases h
    exact ⟨⟨_, _, _, hbrackets, hpending, .operand (.text quote body), rfl⟩, fun h => nomatch h⟩
  · next body =>
    cases h
    exact ⟨⟨_, _, _, hbrackets, hpending, .operand (.field body), rfl⟩, fun h => nomatch h⟩
  · cases h
    refine ⟨⟨_, _, _, .group hbrackets hpending, Pending.standsFor_empty, .wanting false, ?_⟩,
      fun h => nomatch h⟩
    simp only [List.append_nil]
  · -- a closing bracket behind the opening one of a call
    split at h
    · next outer' name es rest =>
      obtain ⟨rfl, _, _, _, heq⟩ := hjust rfl
      cases heq
      cases h
      obtain ⟨letters, ts, us, rfl, houter, hwaiting, rfl⟩ := hbrackets.of_call_nil
      obtain rfl := Pending.eq_nil_of_standsFor_empty hpending
      have hcall : Derives .primary [.name letters, .symbol .opening, .symbol .closing]
          (.call (callName letters) []) := .call letters (List.forall_mem_nil _)
      refine ⟨⟨_, _, _, houter, hwaiting, .operand hcall, ?_⟩, fun h => nomatch h⟩
      simp only [List.append_assoc, List.cons_append, List.nil_append]
    · cases h
  · split at h
    · next s _ _ op hs =>
      cases h
      refine ⟨⟨_, _, _, hbrackets, hpending.lead (mem_leadingOperators.2 hs), .wanting false, ?_⟩,
        fun h => nomatch h⟩
      simp only [List.append_assoc, List.append_nil]
    · cases h

theorem StandsFor.step {ts : List Token} (hr : r.StandsFor ts) (h : r.step t = .ok r') :
    r'.StandsFor (ts ++ [t.token]) := by
  obtain ⟨outer, waiting, operand, hbrackets, hpending, hoperand, rfl⟩ := hr.parts
  unfold Reading.step at h
  split at h
  · next justOpened hphase => exact standsFor_of_beforeOperand hphase hr h
  · next e hphase =>
    rw [hphase] at hoperand
    cases hoperand with
    | operand he => exact standsFor_of_afterOperand hbrackets hpending he h
  · next n hphase =>
    -- the token behind a numeral settles it first, and is then read like behind any operand
    rw [hphase] at hoperand
    cases hoperand
    split at h
    · obtain ⟨e, hliteral, h⟩ := Outcomes.bind_eq_ok_iff.1 h
      have he := derives_of_numeralLiteral hliteral
      exact standsFor_of_afterOperand hbrackets hpending he h
    · cases h
  · next letters position hphase =>
    rw [hphase] at hoperand
    cases hoperand
    split at h
    · next hopening =>
      -- the name was that of a call, and moves from the operand to the open brackets
      cases h
      have hcall := Opened.call letters hbrackets hpending (List.forall_mem_nil _)
      refine ⟨⟨_, _, _, hcall, Pending.standsFor_empty, .wanting true, ?_⟩,
        fun _ => ⟨rfl, _, _, _, rfl⟩⟩
      rw [hopening]
      simp only [terminated, List.map_nil, List.flatMap_nil, List.append_assoc, List.cons_append,
        List.nil_append, List.append_nil]
    · split at h
      · obtain ⟨e, hliteral, h⟩ := Outcomes.bind_eq_ok_iff.1 h
        have he := derives_of_nameLiteral hliteral
        exact standsFor_of_afterOperand hbrackets hpending he h
      · cases h

theorem standsFor_start : start.StandsFor [] :=
  ⟨⟨_, _, _, .nil, Pending.standsFor_empty, .wanting false, rfl⟩, fun h => nomatch h⟩

theorem derives_of_endOperand (hbrackets : Opened r.brackets outer)
    (hpending : r.pending.StandsFor waiting) (he : Derives .primary us e) {length : Nat} {e' : Expr}
    (h : r.endOperand e length = .ok e') : Derives .comparison (outer ++ waiting ++ us) e' := by
  obtain ⟨brackets, pending, phase⟩ := r
  unfold endOperand at h
  cases hbrackets with
  | nil =>
    cases h
    exact hpending.derives_close he
  | group | call => cases h

theorem StandsFor.finish {ts : List Token} (hr : r.StandsFor ts) {length : Nat}
    (h : r.finish length = .ok e) : Derives .comparison ts e := by
  obtain ⟨outer, waiting, operand, hbrackets, hpending, hoperand, rfl⟩ := hr.parts
  unfold Reading.finish at h
  split at h
  · cases h
  · cases h
  · next e' hphase =>
    rw [hphase] at hoperand
    cases hoperand with
    | operand he => exact derives_of_endOperand hbrackets hpending he h
  · next n hphase =>
    rw [hphase] at hoperand
    cases hoperand
    obtain ⟨e', hliteral, h⟩ := Outcomes.bind_eq_ok_iff.1 h
    exact derives_of_endOperand hbrackets hpending (derives_of_numeralLiteral hliteral) h
  · next letters position hphase =>
    rw [hphase] at hoperand
    cases hoperand
    obtain ⟨e', hliteral, h⟩ := Outcomes.bind_eq_ok_iff.1 h
    exact derives_of_endOperand hbrackets hpending (derives_of_nameLiteral hliteral) h

/-- What the reader reads is derived by the grammar. -/
theorem StandsFor.run {ts : List Token} {rest : List Located} (hr : r.StandsFor ts) {length : Nat}
    {stop : Option (Nat × Char)} (h : r.run length stop rest = .ok e) :
    stop = none ∧ Derives .comparison (ts ++ rest.map (·.token)) e := by
  induction rest generalizing r ts with
  | nil =>
    cases stop with
    | some found => cases h
    | none =>
      rw [List.map_nil, List.append_nil]
      exact ⟨rfl, hr.finish h⟩
  | cons t rest ih =>
    obtain ⟨r', hstep, h⟩ := Outcomes.bind_eq_ok_iff.1 h
    have hrest := ih (hr.step hstep) h
    rw [List.append_assoc] at hrest
    exact hrest

end Reading

end RecordCalc.Formula
