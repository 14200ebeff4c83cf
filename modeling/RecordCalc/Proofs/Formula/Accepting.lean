import RecordCalc.Proofs.Formula.Grammar

/-
  The reader takes in what the grammar derives. Reading the tokens of an expression leaves the open
  brackets as they were and some operands waiting, which together with the last operand close to the
  expression (`Reading.accepts_of_derives`).
-/

namespace RecordCalc.Formula

/-! ## Operands that wait -/

namespace Pending

/-- The operand of a level that ends with an operand. -/
def closeAt (p : Pending) : Level → Expr → Expr
  | .primary, e => e
  | .unary, e => p.unary e
  | .power, e => p.power e
  | .product, e => p.closeProduct e
  | .sum, e => p.closeSum e
  | .comparison, e => p.close e

/-- What waits outside the operand of a level. -/
def outside (p : Pending) : Level → Pending
  | .primary => p
  | .unary => { p with leading := [] }
  | .power => { p with powers := [], leading := [] }
  | .product => { p with product := none, powers := [], leading := [] }
  | .sum => ⟨p.comparison, none, none, [], []⟩
  | .comparison => .empty

/-- Whether an operand of a level may start: what waits is all outside it. -/
def Opens (p : Pending) : Level → Prop
  | .primary | .unary => True
  | .power => p.outside .unary = p
  | level => p.outside level = p

/-- The operands that wait come to the same for all that follows an operand of the level. -/
structure Agree (level : Level) (p : Pending) (e : Expr) (p' : Pending) (e' : Expr) : Prop where
  outside : p'.outside level = p.outside level
  closeAt : p'.closeAt level e' = p.closeAt level e

variable {p p' p₁ p₂ : Pending} {level tighter : Level} {e e' e₁ e₂ l r : Expr}

theorem Opens.next (h : p.Opens level) (hnext : level.next? = some tighter) : p.Opens tighter := by
  cases level <;> cases hnext
  · rw [← h]; rfl
  · rw [← h]; rfl
  · rw [← h]; rfl
  · trivial
  · trivial

theorem Agree.next (h : Agree tighter p e p' e') (hnext : level.next? = some tighter) :
    Agree level p e p' e' := by
  obtain ⟨comparison, sum, product, powers, leading⟩ := p
  obtain ⟨comparison', sum', product', powers', leading'⟩ := p'
  obtain ⟨houtside, hclose⟩ := h
  cases level <;> cases hnext
  · cases houtside
    exact ⟨rfl, congrArg (join comparison) hclose⟩
  · cases houtside
    exact ⟨rfl, congrArg (join sum) hclose⟩
  · cases houtside
    exact ⟨rfl, congrArg (join product) hclose⟩
  · cases houtside
    exact ⟨rfl, congrArg (fun e => powers.foldl (fun e base => Expr.binary .power base e) e) hclose⟩
  · cases houtside
    cases hclose
    exact ⟨rfl, rfl⟩

/-- Of an operand that starts anew nothing is left to close but itself. -/
theorem Opens.closeAt (h : p.Opens level) (hlevel : level.operators ≠ []) :
    p.closeAt level e = e := by
  cases level with
  | power | unary | primary => exact absurd rfl hlevel
  | comparison | sum | product =>
    rw [← h]
    rfl

/-- An operand of the next level, read behind a left operand and an operator, ends the operation. -/
theorem Agree.push (hopens : p.Opens level) (hl : Agree level p l p₁ e₁) {rank : Rank}
    (hrank : rank.level = level) (hoperators : level.operators ≠ [])
    (hnext : level.next? = some tighter) {op : BinaryOp}
    (hr : Agree tighter (p₁.push e₁ rank op) r p₂ e₂) :
    Agree level p (.binary op l r) p₂ e₂ := by
  have hclose : p₁.closeAt level e₁ = l := hl.closeAt.trans (hopens.closeAt hoperators)
  have houtside := hl.outside
  obtain ⟨houtside₂, hclose₂⟩ := hr
  obtain ⟨comparison₂, sum₂, product₂, powers₂, leading₂⟩ := p₂
  subst hrank
  refine ⟨?_, ?_⟩
  · cases rank with
    | power => exact absurd rfl hoperators
    | comparison => rfl
    | sum =>
      cases hnext
      cases houtside₂
      exact houtside
    | product =>
      cases hnext
      cases houtside₂
      exact houtside
  · rw [hopens.closeAt hoperators]
    cases rank with
    | power => exact absurd rfl hoperators
    | comparison | sum | product =>
      cases hnext
      cases houtside₂
      exact congrArg₂ (fun l r => Expr.binary op l r) hclose hclose₂

/-- The exponent, read behind a base, ends the power. -/
theorem Agree.pushPower (hopens : p.Opens .power) (hl : Agree .unary p l p₁ e₁)
    (hr : Agree .power (p₁.push e₁ .power .power) r p₂ e₂) :
    Agree .power p (.binary .power l r) p₂ e₂ := by
  obtain ⟨comparison, sum, product, powers, leading⟩ := p
  obtain ⟨comparison₁, sum₁, product₁, powers₁, leading₁⟩ := p₁
  obtain ⟨houtside, hclose⟩ := hl
  cases hopens
  cases houtside
  have hbase : Pending.unary ⟨comparison, sum, product, powers, leading₁⟩ e₁ = l := hclose
  rw [Pending.push, hbase] at hr
  exact ⟨hr.outside, hr.closeAt⟩

/-- The operand behind a leading operator ends the operation. -/
theorem Agree.lead {op : UnaryOp}
    (h : Agree .unary { p with leading := op :: p.leading } e p' e') :
    Agree .unary p (.unary op e) p' e' := ⟨h.outside, h.closeAt⟩

end Pending

/-! ## Reading -/

/-- The phase ends with a complete operand. -/
def Phase.Holds : Phase → Expr → Prop
  | .wanting _, _ => False
  | .numeral n, e => numeralLiteral n = .ok e
  | .name letters position, e => nameLiteral letters position = .ok e
  | .operand e', e => e' = e

namespace Reading

/-- The state after some tokens. -/
def steps (r : Reading) (ts : List Located) : Except Failure Reading := ts.foldlM step r

/-- The state `r'` has read an expression of a level since the state `r`. -/
def HasRead (level : Level) (e : Expr) (r r' : Reading) : Prop :=
  r'.brackets = r.brackets ∧
    ∃ e', r'.phase.Holds e' ∧ Pending.Agree level r.pending e r'.pending e'

variable {r r' : Reading} {ts us : List Located} {t : Located} {e : Expr} {level : Level}

theorem steps_append (r : Reading) (ts us : List Located) :
    r.steps (ts ++ us) = (r.steps ts >>= fun r => r.steps us) := by
  unfold steps
  rw [List.foldlM_append]

theorem steps_append_cons (h : r.steps ts = .ok r') (t : Located) (us : List Located) :
    r.steps (ts ++ t :: us) = (r'.step t >>= fun r => r.steps us) := by
  rw [steps_append, h]
  rfl

/-- A run reads its tokens and then comes to its end. -/
theorem run_eq (r : Reading) (length : Nat) (stop : Option (Nat × Char)) (ts : List Located) :
    r.run length stop ts = (r.steps ts >>= fun r' => r'.run length stop []) := by
  induction ts generalizing r with
  | nil => rfl
  | cons t ts ih =>
    rw [run, steps, List.foldlM_cons, bind_assoc]
    congr 1
    funext r'
    exact ih r'

theorem step_of_holds (h : r.phase.Holds e) (ht : mayFollow t.token = true) :
    r.step t = r.afterOperand e t := by
  unfold step
  cases hphase : r.phase with
  | wanting justOpened =>
    rw [hphase] at h
    cases h
  | operand e' =>
    rw [hphase] at h
    cases h
    rfl
  | numeral n =>
    rw [hphase] at h
    have hliteral : numeralLiteral n = .ok e := h
    simp only [ht, if_true, hliteral]
    rfl
  | name letters position =>
    rw [hphase] at h
    have hliteral : nameLiteral letters position = .ok e := h
    have hopening : ¬ t.token = .symbol .opening := by
      intro hopening
      rw [hopening] at ht
      cases ht
    simp only [ht, if_true, hliteral, if_neg hopening]
    rfl

theorem finish_of_holds (h : r.phase.Holds e) (length : Nat) :
    r.finish length = r.endOperand e length := by
  unfold finish
  cases hphase : r.phase with
  | wanting justOpened =>
    rw [hphase] at h
    cases h
  | operand e' =>
    rw [hphase] at h
    cases h
    rfl
  | numeral n =>
    rw [hphase] at h
    have hliteral : numeralLiteral n = .ok e := h
    simp only [hliteral]
    rfl
  | name letters position =>
    rw [hphase] at h
    have hliteral : nameLiteral letters position = .ok e := h
    simp only [hliteral]
    rfl

/-! ## Reading what the grammar derives -/

/-- Wherever an operand of the level may start, reading the tokens reads the expression. -/
def Accepts (level : Level) (tokens : List Token) (e : Expr) : Prop :=
  ∀ (ts : List Located) (r : Reading) (justOpened : Bool), ts.map (·.token) = tokens →
    r.phase = .wanting justOpened → r.pending.Opens level →
    ∃ r', r.steps ts = .ok r' ∧ HasRead level e r r'

section
variable {tokens tokens' : List Token} {tighter : Level} {a b : Expr}

theorem Accepts.next (h : Accepts tighter tokens e) (hnext : level.next? = some tighter) :
    Accepts level tokens e := by
  intro ts r justOpened hts hphase hopens
  obtain ⟨r', hsteps, hbrackets, e', hholds, hagree⟩ :=
    h ts r justOpened hts hphase (hopens.next hnext)
  exact ⟨r', hsteps, hbrackets, e', hholds, hagree.next hnext⟩

theorem step_operator (h : r.phase.Holds e) {s : Symbol} {rank : Rank} {op : BinaryOp}
    (ht : t.token = .symbol s) (hs : s.infix? = some (rank, op)) :
    r.step t = .ok { r with pending := r.pending.push e rank op, phase := .wanting false } := by
  have hfollow : mayFollow t.token = true := by
    rw [ht]
    cases s <;> first | rfl | cases hs
  rw [step_of_holds h hfollow, afterOperand, ht]
  cases s <;> cases hs <;> rfl

theorem Accepts.left (ha : Accepts level tokens a) (hb : Accepts tighter tokens' b)
    (hnext : level.next? = some tighter) {s : Symbol} {op : BinaryOp}
    (hop : (s, op) ∈ level.operators) :
    Accepts level (tokens ++ .symbol s :: tokens') (.binary op a b) := by
  intro ts r justOpened hts hphase hopens
  obtain ⟨before, rest, rfl, hbefore, hrest⟩ := List.map_eq_append_iff.1 hts
  obtain ⟨t, after, rfl, ht, hafter⟩ := List.map_eq_cons_iff.1 hrest
  obtain ⟨rank, hrank, -, hs⟩ := infix?_of_mem hop
  have hoperators : level.operators ≠ [] := List.ne_nil_of_mem hop
  obtain ⟨r₁, hsteps₁, hbrackets₁, e₁, hholds₁, hagree₁⟩ :=
    ha before r justOpened hbefore hphase hopens
  have hopens₁ : (r₁.pending.push e₁ rank op).Opens tighter := by
    subst hrank
    cases rank <;> cases hnext <;> first | rfl | exact absurd rfl hoperators
  obtain ⟨r₂, hsteps₂, hbrackets₂, e₂, hholds₂, hagree₂⟩ :=
    hb after { r₁ with pending := r₁.pending.push e₁ rank op, phase := .wanting false } false
      hafter rfl hopens₁
  refine ⟨r₂, ?_, hbrackets₂.trans hbrackets₁, e₂, hholds₂,
    hagree₁.push hopens hrank hoperators hnext hagree₂⟩
  rw [steps_append_cons hsteps₁, step_operator hholds₁ ht hs]
  exact hsteps₂

theorem Accepts.power (ha : Accepts .unary tokens a) (hb : Accepts .power tokens' b) :
    Accepts .power (tokens ++ .symbol .caret :: tokens') (.binary .power a b) := by
  intro ts r justOpened hts hphase hopens
  obtain ⟨before, rest, rfl, hbefore, hrest⟩ := List.map_eq_append_iff.1 hts
  obtain ⟨t, after, rfl, ht, hafter⟩ := List.map_eq_cons_iff.1 hrest
  -- the base is a unary operand, so it may start whatever waits
  obtain ⟨r₁, hsteps₁, hbrackets₁, e₁, hholds₁, hagree₁⟩ :=
    ha before r justOpened hbefore hphase trivial
  obtain ⟨r₂, hsteps₂, hbrackets₂, e₂, hholds₂, hagree₂⟩ :=
    hb after { r₁ with pending := r₁.pending.push e₁ .power .power, phase := .wanting false } false
      hafter rfl rfl
  refine ⟨r₂, ?_, hbrackets₂.trans hbrackets₁, e₂, hholds₂, hagree₁.pushPower hopens hagree₂⟩
  rw [steps_append_cons hsteps₁, step_operator hholds₁ ht rfl]
  exact hsteps₂

theorem Accepts.unary (h : Accepts .unary tokens e) {s : Symbol} {op : UnaryOp}
    (hop : (s, op) ∈ leadingOperators) :
    Accepts .unary (.symbol s :: tokens) (.unary op e) := by
  intro ts r justOpened hts hphase hopens
  obtain ⟨t, after, rfl, ht, hafter⟩ := List.map_eq_cons_iff.1 hts
  have hs : s.leading? = some op := mem_leadingOperators.1 hop
  have hstep : r.step t = .ok ⟨r.brackets,
      { r.pending with leading := op :: r.pending.leading }, .wanting false⟩ := by
    unfold step beforeOperand
    rw [hphase, ht]
    cases s <;> cases hs <;> rfl
  obtain ⟨r', hsteps, hbrackets, e', hholds, hagree⟩ :=
    h after ⟨r.brackets, { r.pending with leading := op :: r.pending.leading }, .wanting false⟩
      false hafter rfl trivial
  refine ⟨r', ?_, hbrackets, e', hholds, hagree.lead⟩
  rw [steps, List.foldlM_cons, hstep]
  exact hsteps

/-- A token alone is read as an operand that it holds. -/
theorem accepts_singleton {token : Token}
    (h : ∀ (r : Reading) (t : Located) (justOpened : Bool), t.token = token →
      ∃ phase, r.beforeOperand justOpened t = .ok { r with phase := phase } ∧ phase.Holds e) :
    Accepts .primary [token] e := by
  intro ts r justOpened hts hphase _
  obtain ⟨t, after, rfl, ht, hafter⟩ := List.map_eq_cons_iff.1 hts
  obtain rfl : after = [] := List.map_eq_nil_iff.1 hafter
  obtain ⟨phase, hstep, hholds⟩ := h r t justOpened ht
  refine ⟨{ r with phase := phase }, ?_, rfl, e, hholds, rfl, rfl⟩
  have hstep' : r.step t = .ok { r with phase := phase } := by
    unfold step
    rw [hphase]
    exact hstep
  rw [steps, List.foldlM_cons, hstep']
  rfl

/-! ### Brackets -/

theorem step_opening {justOpened : Bool} (hphase : r.phase = .wanting justOpened)
    (ht : t.token = .symbol .opening) :
    r.step t = .ok ⟨(r.pending, .group) :: r.brackets, .empty, .wanting false⟩ := by
  unfold step beforeOperand
  rw [hphase, ht]

theorem step_comma (h : r.phase.Holds e) (ht : t.token = .symbol .comma) {outer : Pending}
    {name : String} {args : List Expr} {rest : List (Pending × Bracket)}
    (hbrackets : r.brackets = (outer, .call name args) :: rest) :
    r.step t =
      .ok ⟨(outer, .call name (r.pending.close e :: args)) :: rest, .empty, .wanting false⟩ := by
  rw [step_of_holds h (by rw [ht]; rfl)]
  unfold afterOperand
  rw [ht, hbrackets]

theorem step_closing_group (h : r.phase.Holds e) (ht : t.token = .symbol .closing)
    {outer : Pending} {rest : List (Pending × Bracket)}
    (hbrackets : r.brackets = (outer, .group) :: rest) :
    r.step t = .ok ⟨rest, outer, .operand (r.pending.close e)⟩ := by
  rw [step_of_holds h (by rw [ht]; rfl)]
  unfold afterOperand
  rw [ht, hbrackets]

theorem step_closing_call (h : r.phase.Holds e) (ht : t.token = .symbol .closing)
    {outer : Pending} {name : String} {args : List Expr} {rest : List (Pending × Bracket)}
    (hbrackets : r.brackets = (outer, .call name args) :: rest) :
    r.step t = .ok ⟨rest, outer, .operand (.call name (r.pending.close e :: args).reverse)⟩ := by
  rw [step_of_holds h (by rw [ht]; rfl)]
  unfold afterOperand
  rw [ht, hbrackets]

/-- Of a comparison that fills a bracket nothing is left to close but itself. -/
theorem HasRead.close_eq {brackets : List (Pending × Bracket)} {justOpened : Bool}
    (h : HasRead .comparison e ⟨brackets, .empty, .wanting justOpened⟩ r') :
    r'.brackets = brackets ∧ ∃ e', r'.phase.Holds e' ∧ r'.pending.close e' = e := by
  obtain ⟨hbrackets, e', hholds, hagree⟩ := h
  exact ⟨hbrackets, e', hholds, hagree.closeAt⟩

theorem Accepts.group (h : Accepts .comparison tokens e) :
    Accepts .primary (.symbol .opening :: tokens ++ [.symbol .closing]) e := by
  intro ts r justOpened hts hphase _
  obtain ⟨t, rest, rfl, ht, hrest⟩ := List.map_eq_cons_iff.1 hts
  obtain ⟨within, after, rfl, hwithin, hafter⟩ := List.map_eq_append_iff.1 hrest
  obtain ⟨t', after, rfl, ht', hafter⟩ := List.map_eq_cons_iff.1 hafter
  obtain rfl : after = [] := List.map_eq_nil_iff.1 hafter
  obtain ⟨r₁, hsteps, hread⟩ :=
    h within ⟨(r.pending, .group) :: r.brackets, .empty, .wanting false⟩ false hwithin rfl rfl
  obtain ⟨hbrackets, e', hholds, hclose⟩ := hread.close_eq
  refine ⟨⟨r.brackets, r.pending, .operand e⟩, ?_, rfl, e, rfl, rfl, rfl⟩
  rw [steps, List.foldlM_cons, step_opening hphase ht]
  change Reading.steps _ (within ++ [t']) = _
  rw [steps_append_cons hsteps, step_closing_group hholds ht' hbrackets, hclose]
  rfl

/-- The arguments of a call are read one by one up to its end. -/
theorem steps_arguments {args : List (List Token × Expr)}
    (hargs : ∀ arg ∈ args, Accepts .comparison arg.1 arg.2) (hne : args ≠ [])
    {ts : List Located} (hts : ts.map (·.token) = separated (args.map (·.1)) ++ [.symbol .closing])
    (outer : Pending) (name : String) (done : List Expr) (rest : List (Pending × Bracket))
    (justOpened : Bool) :
    Reading.steps ⟨(outer, .call name done) :: rest, .empty, .wanting justOpened⟩ ts =
      .ok ⟨rest, outer, .operand (.call name (done.reverse ++ args.map (·.2)))⟩ := by
  induction args generalizing ts done justOpened with
  | nil => exact absurd rfl hne
  | cons arg args ih =>
    have harg := hargs arg List.mem_cons_self
    cases args with
    | nil =>
      simp only [List.map_cons, List.map_nil, separated_singleton] at hts
      obtain ⟨within, after, rfl, hwithin, hafter⟩ := List.map_eq_append_iff.1 hts
      obtain ⟨t, after, rfl, ht, hafter⟩ := List.map_eq_cons_iff.1 hafter
      obtain rfl : after = [] := List.map_eq_nil_iff.1 hafter
      obtain ⟨r', hsteps, hread⟩ := harg within
        ⟨(outer, .call name done) :: rest, .empty, .wanting justOpened⟩ justOpened hwithin rfl rfl
      obtain ⟨hbrackets, e', hholds, hclose⟩ := hread.close_eq
      rw [steps_append_cons hsteps, step_closing_call hholds ht hbrackets, hclose,
        List.reverse_cons]
      rfl
    | cons arg' args =>
      simp only [List.map_cons, separated_cons_cons, List.append_assoc, List.cons_append] at hts
      obtain ⟨within, after, rfl, hwithin, hafter⟩ := List.map_eq_append_iff.1 hts
      obtain ⟨t, after, rfl, ht, hafter⟩ := List.map_eq_cons_iff.1 hafter
      obtain ⟨r', hsteps, hread⟩ := harg within
        ⟨(outer, .call name done) :: rest, .empty, .wanting justOpened⟩ justOpened hwithin rfl rfl
      obtain ⟨hbrackets, e', hholds, hclose⟩ := hread.close_eq
      have hrest := ih (fun arg harg => hargs arg (List.mem_cons_of_mem _ harg))
        (List.cons_ne_nil arg' args) hafter (arg.2 :: done) false
      rw [steps_append_cons hsteps, step_comma hholds ht hbrackets, hclose]
      rw [List.reverse_cons, List.append_assoc] at hrest
      exact hrest

theorem accepts_call {letters : List Char} {args : List (List Token × Expr)}
    (hargs : ∀ arg ∈ args, Accepts .comparison arg.1 arg.2) :
    Accepts .primary
      (.name letters :: .symbol .opening :: separated (args.map (·.1)) ++ [.symbol .closing])
      (.call (String.ofList (letters.map Char.toUpper)) (args.map (·.2))) := by
  intro ts r justOpened hts hphase _
  obtain ⟨t, rest, rfl, ht, hrest⟩ := List.map_eq_cons_iff.1 hts
  obtain ⟨t', rest, rfl, ht', hrest⟩ := List.map_eq_cons_iff.1 hrest
  refine ⟨⟨r.brackets, r.pending, .operand (.call (callName letters) (args.map (·.2)))⟩, ?_, rfl,
    _, rfl, rfl, rfl⟩
  have hname : r.step t = .ok { r with phase := .name letters t.position } := by
    unfold step beforeOperand
    rw [hphase, ht]
  have hopen : Reading.step { r with phase := .name letters t.position } t' =
      .ok ⟨(r.pending, .call (callName letters) []) :: r.brackets, .empty, .wanting true⟩ :=
    if_pos ht'
  rw [steps, List.foldlM_cons, hname]
  change Reading.steps { r with phase := .name letters t.position } (t' :: rest) = _
  rw [steps, List.foldlM_cons, hopen]
  change Reading.steps ⟨(r.pending, .call (callName letters) []) :: r.brackets, .empty,
    .wanting true⟩ rest = _
  cases args with
  | nil =>
    obtain ⟨t'', after, rfl, ht'', hafter⟩ := List.map_eq_cons_iff.1 hrest
    obtain rfl : after = [] := List.map_eq_nil_iff.1 hafter
    have hclose : Reading.step ⟨(r.pending, .call (callName letters) []) :: r.brackets, .empty,
        .wanting true⟩ t'' =
          .ok ⟨r.brackets, r.pending, .operand (.call (callName letters) [])⟩ := by
      unfold step beforeOperand
      rw [ht'']
      rfl
    rw [steps, List.foldlM_cons, hclose]
    rfl
  | cons arg args =>
    exact steps_arguments hargs (List.cons_ne_nil arg args) hrest r.pending (callName letters) []
      r.brackets true

end

/-- The numerals among some tokens are readable. -/
def Readable (tokens : List Token) : Prop := ∀ n, Token.numeral n ∈ tokens → n.IsReadable

theorem Readable.of_subset {tokens tokens' : List Token} (h : Readable tokens)
    (hsub : ∀ t ∈ tokens', t ∈ tokens) : Readable tokens' :=
  fun n hn => h n (hsub _ hn)

/-- The reader accepts what the grammar derives. -/
theorem accepts_of_derives {tokens : List Token} (h : Derives level tokens e)
    (hread : Readable tokens) : Accepts level tokens e := by
  induction h with
  | next hnext _ ih => exact (ih hread).next hnext
  | left hnext hop _ _ iha ihb =>
    refine (iha ?_).left (ihb ?_) hnext hop
    · exact hread.of_subset fun t ht => List.mem_append_left _ ht
    · exact hread.of_subset fun t ht => List.mem_append_right _ (List.mem_cons_of_mem _ ht)
  | power _ _ iha ihb =>
    refine (iha ?_).power (ihb ?_)
    · exact hread.of_subset fun t ht => List.mem_append_left _ ht
    · exact hread.of_subset fun t ht => List.mem_append_right _ (List.mem_cons_of_mem _ ht)
  | unary hop _ ih => exact (ih (hread.of_subset fun t ht => List.mem_cons_of_mem _ ht)).unary hop
  | numeral n =>
    refine accepts_singleton fun r t justOpened ht => ⟨.numeral n, ?_, ?_⟩
    · unfold beforeOperand
      rw [ht]
    · exact numeralLiteral_eq (hread n List.mem_cons_self)
  | text quote body =>
    refine accepts_singleton fun r t justOpened ht => ⟨.operand _, ?_, rfl⟩
    unfold beforeOperand
    rw [ht]
  | field body =>
    refine accepts_singleton fun r t justOpened ht => ⟨.operand _, ?_, rfl⟩
    unfold beforeOperand
    rw [ht]
  | @yes letters hletters =>
    refine accepts_singleton fun r t justOpened ht => ⟨.name letters t.position, ?_, ?_⟩
    · unfold beforeOperand
      rw [ht]
    · exact if_pos hletters
  | @no letters hletters =>
    refine accepts_singleton fun r t justOpened ht => ⟨.name letters t.position, ?_, ?_⟩
    · unfold beforeOperand
      rw [ht]
    · have hyes : ¬ letters.map Char.toUpper = "TRUE".toList := by
        rw [hletters]
        decide
      exact (if_neg hyes).trans (if_pos hletters)
  | call letters _ ih =>
    refine accepts_call fun arg harg => ih arg harg (hread.of_subset fun t ht => ?_)
    have hmem := mem_separated (List.mem_map_of_mem harg) ht
    exact List.mem_append_left _ (List.mem_cons_of_mem _ (List.mem_cons_of_mem _ hmem))
  | group _ ih =>
    refine (ih (hread.of_subset fun t ht => ?_)).group
    exact List.mem_append_left _ (List.mem_cons_of_mem _ ht)

/-- The reader reads what the grammar derives. -/
theorem run_of_derives {ts : List Located} (h : Derives .comparison (ts.map (·.token)) e)
    (hread : Readable (ts.map (·.token))) (length : Nat) : start.run length none ts = .ok e := by
  obtain ⟨r, hsteps, hstate⟩ := accepts_of_derives h hread ts start false rfl rfl rfl
  obtain ⟨hbrackets, e', hholds, hclose⟩ := hstate.close_eq
  rw [run_eq, hsteps]
  change r.finish length = _
  rw [finish_of_holds hholds, endOperand, hbrackets, hclose]
  rfl

end Reading

end RecordCalc.Formula
