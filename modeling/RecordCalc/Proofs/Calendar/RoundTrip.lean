import RecordCalc.Proofs.Calendar.Patterns
import RecordCalc.Proofs.Value.Writing

/-
  Reading the ISO form of a datetime. The parts of a written time and of a written offset are read
  back from their digits (`readClock_iso`, `readClock_offset`), and the parts make up the time and
  the offset again, except that an offset of less than a second is taken for universal time
  (`toOffset?_reading`); so a datetime is read with the offset `Offset.asRead`
  (`DateTime.readIso?_iso`).
-/

namespace RecordCalc.Calendar

open Binary64 (padded)
open Text (length_padded isDigit_of_mem_padded ofDigitChars_padded)

/-! ## Digits -/

theorem readDigits_append {digits : List Char} (h : ∀ c ∈ digits, c.isDigit = true) (value : Nat)
    (rest : List Char) :
    readDigits value digits.length (digits ++ rest) =
      some (Nat.ofDigitChars 10 digits value, rest) := by
  induction digits generalizing value with
  | nil => rfl
  | cons c cs ih =>
    rw [List.forall_mem_cons] at h
    rw [List.length_cons, List.cons_append, readDigits, if_pos h.1, ih h.2, Nat.ofDigitChars_cons]
    rfl

/-- A padded number is read in its width. -/
theorem readDigits_padded (width : Nat) {n : Nat} (hwidth : 0 < width) (h : n < 10 ^ width)
    (rest : List Char) :
    readDigits 0 width ((padded n width).toList ++ rest) = some (n, rest) := by
  have hdigits : ∀ c ∈ (padded n width).toList, c.isDigit = true :=
    fun _ hc => isDigit_of_mem_padded hc
  have hread := readDigits_append hdigits 0 rest
  rwa [length_padded hwidth h, ofDigitChars_padded] at hread

theorem padded_append_ne_nil {n : Nat} (h : n < 100) (rest : List Char) :
    (padded n 2).toList ++ rest ≠ [] := by
  rw [toList_padded_two h]
  simp

/-- A written number begins with a digit. -/
theorem padded_append_ne_cons {n : Nat} (h : n < 100) {c : Char} (hc : c.isDigit = false)
    (rest after : List Char) : (padded n 2).toList ++ rest ≠ c :: after := by
  intro heq
  have hmem : c ∈ (padded n 2).toList := by
    rw [toList_padded_two h] at heq ⊢
    rw [← (List.cons.inj heq).1]
    exact List.mem_cons_self
  rw [isDigit_of_mem_padded hmem] at hc
  cases hc

/-! ## Times of the day -/

/-- The microseconds of a second where there are some. -/
def fractionChars (micro : Nat) : List Char :=
  if micro = 0 then [] else '.' :: (padded micro 6).toList

/-- The seconds of an offset where there are some. -/
def secondsChars (micros : Nat) : List Char :=
  if micros = 0 then []
  else ':' :: ((padded (micros / secondMicros) 2).toList ++ fractionChars (micros % secondMicros))

theorem Clock.toList_iso (c : Clock) :
    c.iso.toList = (padded c.hour 2).toList ++ ':' :: ((padded c.minute 2).toList ++
      ':' :: ((padded c.second 2).toList ++ fractionChars c.micro)) := by
  unfold Clock.iso fractionChars
  split <;> simp

theorem Offset.toList_iso (o : Offset) :
    o.iso.toList = (if o.micros < 0 then '-' else '+') ::
      ((padded (o.micros.natAbs / (60 * secondMicros) / 60) 2).toList ++
        ':' :: ((padded (o.micros.natAbs / (60 * secondMicros) % 60) 2).toList ++
          secondsChars (o.micros.natAbs % (60 * secondMicros)))) := by
  unfold Offset.iso secondsChars fractionChars
  dsimp only
  split <;> split <;> [skip; split; skip; split] <;> simp

section
variable {colons : Bool} {parts : List Nat} {left n : Nat}

/-- A part that ends the text ends the reading. -/
theorem readClock_last (hn : n < 100) :
    readClock colons parts (left + 1) (padded n 2).toList =
      readClock.ofParts (parts ++ [n]) 0 true := by
  have hread := readDigits_padded 2 (by decide) hn []
  rw [List.append_nil] at hread
  unfold readClock
  rw [hread]
  rfl

/-- After a colon the next part is read. -/
theorem readClock_colon (hn : n < 100) (hcolons : colons = true ∨ parts = []) {after : List Char}
    (hafter : after ≠ []) :
    readClock colons parts (left + 1) ((padded n 2).toList ++ ':' :: after) =
      readClock true (parts ++ [n]) left after := by
  have hread := readDigits_padded 2 (by decide) hn (':' :: after)
  have hempty : after.isEmpty = false := by simpa using hafter
  have hthroughout :
      (if (parts ++ [n]).length = 1 then (':' :: after).head? == some ':' else colons) = true := by
    rcases hcolons with rfl | rfl
    · split <;> rfl
    · rfl
  conv_lhs => unfold readClock
  rw [hread]
  dsimp only [Option.bind_eq_bind, Option.bind_some]
  rw [hthroughout, hempty]
  rfl

theorem readFraction_padded {micro : Nat} (h : micro < secondMicros) :
    readFraction (padded micro 6).toList = some (micro, true) := by
  have hlength : (padded micro 6).toList.length = 6 := length_padded (by decide) h
  have hread := readDigits_padded 6 (by decide) h []
  rw [List.append_nil] at hread
  unfold readFraction
  dsimp only
  rw [hlength, Nat.min_self, hread]
  exact congrArg (fun m => some (m, true)) (Nat.mul_one micro)

/-- The last part may have a fraction. -/
theorem readClock_fraction {micro : Nat} (hn : n < 100) (hmicro : micro < secondMicros) :
    readClock colons parts (left + 1) ((padded n 2).toList ++ fractionChars micro) =
      readClock.ofParts (parts ++ [n]) micro true := by
  unfold fractionChars
  split
  next hzero => rw [List.append_nil, readClock_last hn, hzero]
  next hzero =>
    have hlength : (padded micro 6).toList.length = 6 := length_padded (by decide) hmicro
    have hempty : (padded micro 6).toList.isEmpty = false := by
      rw [List.isEmpty_eq_false_iff, ← List.length_pos_iff, hlength]
      decide
    have hmark : ('.' == ':') = false := rfl
    unfold readClock
    rw [readDigits_padded 2 (by decide) hn]
    dsimp only [Option.bind_eq_bind, Option.bind_some]
    rw [hempty, hmark, Bool.and_false]
    change readClock.withFraction (parts ++ [n]) (padded micro 6).toList = _
    rw [readClock.withFraction, readFraction_padded hmicro]
    rfl

end

theorem Clock.bounds (c : Clock) :
    c.hour < 24 ∧ c.minute < 60 ∧ c.second < 60 ∧ c.micro < secondMicros := by
  have hday := c.lt_day
  unfold dayMicros secondMicros at hday
  unfold Clock.hour Clock.minute Clock.second Clock.micro secondMicros
  omega

/-- A written time is read part by part. -/
theorem readClock_iso (c : Clock) :
    readClock false [] 3 c.iso.toList = some ⟨c.hour, c.minute, c.second, c.micro, true⟩ := by
  obtain ⟨hhour, hminute, hsecond, hmicro⟩ := c.bounds
  rw [c.toList_iso, readClock_colon (by omega) (.inr rfl) (by simp),
    readClock_colon (by omega) (.inl rfl) (padded_append_ne_nil (by omega) _),
    readClock_fraction (by omega) hmicro]
  rfl

/-- The parts of a time make up the time. -/
theorem ofHms?_self (c : Clock) : Clock.ofHms? c.hour c.minute c.second c.micro = some c := by
  unfold Clock.ofHms?
  rw [dif_pos c.bounds]
  refine congrArg some ?_
  cases c with
  | mk micros hday =>
    rw [Clock.mk.injEq]
    unfold Clock.hour Clock.minute Clock.second Clock.micro secondMicros
    dsimp only
    omega

/-! ## Offsets -/

/-- The parts of a written offset. -/
def Offset.reading (o : Offset) : ClockReading :=
  let minutes := o.micros.natAbs / (60 * secondMicros)
  let rest := o.micros.natAbs % (60 * secondMicros)
  ⟨minutes / 60, minutes % 60, rest / secondMicros, rest % secondMicros, true⟩

/-- A written offset is read part by part behind its sign. -/
theorem readClock_offset (o : Offset) :
    ∃ cs, o.iso.toList = (if o.micros < 0 then '-' else '+') :: cs ∧
      readClock false [] 3 cs = some o.reading := by
  have hday := o.lt_day
  refine ⟨_, o.toList_iso, ?_⟩
  unfold Offset.reading secondsChars
  dsimp only
  unfold dayMicros at hday
  generalize o.micros.natAbs = n at hday ⊢
  have hhours : n / (60 * secondMicros) / 60 < 100 := by
    unfold secondMicros at *
    omega
  have hminutes : n / (60 * secondMicros) % 60 < 100 := by omega
  split
  next hzero =>
    have hafter : (padded (n / (60 * secondMicros) % 60) 2).toList ≠ [] := by
      simpa using padded_append_ne_nil hminutes []
    rw [List.append_nil, readClock_colon hhours (.inr rfl) hafter, readClock_last hminutes, hzero]
    rfl
  next hsome =>
    have hseconds : n % (60 * secondMicros) / secondMicros < 100 := by
      unfold secondMicros at *
      omega
    have hmicro : n % (60 * secondMicros) % secondMicros < secondMicros := Nat.mod_lt _ (by decide)
    rw [readClock_colon hhours (.inr rfl) (padded_append_ne_nil hminutes _),
      readClock_colon hminutes (.inl rfl) (padded_append_ne_nil hseconds _),
      readClock_fraction hseconds hmicro]
    rfl

/-- The offset that is read where an offset was written: less than a second is taken for none. -/
def Offset.asRead (o : Offset) : Offset :=
  if o.micros.natAbs < secondMicros then .utc else o

theorem toOffset?_reading (o : Offset) :
    o.reading.toOffset? (o.micros < 0) = some o.asRead := by
  have hseconds : (o.reading.hour * 60 + o.reading.minute) * 60 + o.reading.second =
      o.micros.natAbs / secondMicros := by
    unfold Offset.reading secondMicros
    dsimp only
    omega
  have hmicro : o.reading.micro = o.micros.natAbs % secondMicros := by
    unfold Offset.reading secondMicros
    dsimp only
    omega
  unfold ClockReading.toOffset? Offset.asRead
  rw [hseconds, hmicro]
  dsimp only
  by_cases hsmall : o.micros.natAbs < secondMicros
  · rw [if_pos (Nat.div_eq_of_lt hsmall), if_pos hsmall]
  · have hpos : o.micros.natAbs / secondMicros ≠ 0 :=
      (Nat.div_pos (Nat.not_lt.1 hsmall) (by decide)).ne'
    rw [if_neg hpos, if_neg hsmall, Nat.div_add_mod', Binary64.signed_natAbs]
    exact dif_pos o.lt_day

theorem Offset.asRead_eq_iff (o : Offset) :
    o.asRead = o ↔ ¬ (o.micros ≠ 0 ∧ o.micros.natAbs < secondMicros) := by
  unfold Offset.asRead Offset.utc
  split
  next hsmall =>
    cases o with
    | mk micros hday =>
      rw [Offset.mk.injEq]
      exact ⟨fun h h' => h'.1 h.symm, fun h => Decidable.not_not.1 fun h' => h ⟨Ne.symm h', hsmall⟩⟩
  next hlarge => exact iff_of_true rfl fun h => hlarge h.2

/-! ## Times with an offset -/

theorem mem_fractionChars {micro : Nat} {x : Char} (h : x ∈ fractionChars micro) :
    x.isDigit = true ∨ x = '.' := by
  unfold fractionChars at h
  split at h
  · cases h
  · rcases List.mem_cons.1 h with rfl | h
    · exact .inr rfl
    · exact .inl (isDigit_of_mem_padded h)

/-- The characters of a written time. -/
theorem Clock.mem_iso {c : Clock} {x : Char} (h : x ∈ c.iso.toList) :
    x.isDigit = true ∨ x = ':' ∨ x = '.' := by
  rw [c.toList_iso] at h
  simp only [List.mem_append, List.mem_cons] at h
  rcases h with h | h | h | h | h | h
  · exact .inl (isDigit_of_mem_padded h)
  · exact .inr (.inl h)
  · exact .inl (isDigit_of_mem_padded h)
  · exact .inr (.inl h)
  · exact .inl (isDigit_of_mem_padded h)
  · exact (mem_fractionChars h).imp_right .inr

/-- The characters of a written offset. -/
theorem Offset.mem_iso {o : Offset} {x : Char} (h : x ∈ o.iso.toList) :
    x.isDigit = true ∨ x ∈ ['+', '-', ':', '.'] := by
  rw [o.toList_iso] at h
  unfold secondsChars at h
  simp only [List.mem_append, List.mem_cons] at h
  rcases h with h | h | h | h | h
  · split at h <;> exact .inr (by simp [h])
  · exact .inl (isDigit_of_mem_padded h)
  · exact .inr (by simp [h])
  · exact .inl (isDigit_of_mem_padded h)
  · split at h
    · cases h
    · simp only [List.mem_append, List.mem_cons] at h
      rcases h with h | h | h
      · exact .inr (by simp [h])
      · exact .inl (isDigit_of_mem_padded h)
      · exact (mem_fractionChars h).imp_right fun h => by simp [h]

/-- Whether a character starts an offset. -/
def isSign (c : Char) : Bool := c == '+' || c == '-'

theorem Clock.not_isSign_of_mem_iso {c : Clock} {x : Char} (h : x ∈ c.iso.toList) :
    (!isSign x) = true := by
  rcases c.mem_iso h with h | rfl | rfl
  · have hsign : ∀ y, isSign y = true → y.isDigit = false := by
      intro y hy
      rcases Bool.or_eq_true_iff.1 hy with hy | hy <;> rw [eq_of_beq hy] <;> rfl
    rw [Bool.not_eq_true', Bool.eq_false_iff]
    intro hx
    rw [hsign x hx] at h
    cases h
  · rfl
  · rfl

/-- A written time goes up to the sign of the offset. -/
theorem Clock.iso_append_split (c : Clock) {tail : List Char}
    (htail : ∀ x ∈ tail.head?, isSign x = true) :
    (c.iso.toList ++ tail).takeWhile (!isSign ·) = c.iso.toList ∧
      (c.iso.toList ++ tail).dropWhile (!isSign ·) = tail := by
  have hclock : ∀ x ∈ c.iso.toList, (!isSign x) = true := fun x => c.not_isSign_of_mem_iso
  rw [List.takeWhile_append_of_pos hclock, List.dropWhile_append_of_pos hclock]
  cases tail with
  | nil => simp
  | cons x rest => simp [htail x rfl]

theorem readIsoTime?_clock (c : Clock) : readIsoTime? c.iso.toList = some (c, none) := by
  obtain ⟨htake, hdrop⟩ := @c.iso_append_split [] (by simp)
  rw [List.append_nil] at htake hdrop
  unfold isSign at htake hdrop
  unfold readIsoTime?
  dsimp only
  rw [htake, hdrop, readClock_iso]
  dsimp only [Option.bind_eq_bind, Option.bind_some, ClockReading.toClock?]
  rw [ofHms?_self]
  rfl

theorem readIsoTime?_offset (c : Clock) (o : Offset) :
    readIsoTime? (c.iso.toList ++ o.iso.toList) = some (c, some o.asRead) := by
  obtain ⟨cs, hchars, hread⟩ := readClock_offset o
  have hnegative : ((if o.micros < 0 then '-' else '+') == '-') = decide (o.micros < 0) := by
    split <;> simp [*]
  rw [hchars]
  obtain ⟨htake, hdrop⟩ := @c.iso_append_split ((if o.micros < 0 then '-' else '+') :: cs)
    (by split <;> simp [isSign])
  unfold isSign at htake hdrop
  unfold readIsoTime?
  dsimp only
  rw [htake, hdrop, readClock_iso]
  dsimp only [Option.bind_eq_bind, Option.bind_some, ClockReading.toClock?]
  rw [ofHms?_self, hread, hnegative]
  dsimp only [Option.bind_some]
  rw [toOffset?_reading]
  rfl

/-! ## Datetimes -/

/-- The characters of a written date. -/
theorem Date.mem_iso {d : Date} {x : Char} (h : x ∈ d.iso.toList) : x.isDigit = true ∨ x = '-' := by
  rw [d.toList_iso] at h
  simp only [List.mem_append, List.mem_cons] at h
  rcases h with h | h | h | h | h
  · exact .inl (isDigit_of_mem_padded h)
  · exact .inr h
  · exact .inl (isDigit_of_mem_padded h)
  · exact .inr h
  · exact .inl (isDigit_of_mem_padded h)

/-- What follows the date in a written datetime. -/
def DateTime.timeChars (t : DateTime) : List Char :=
  t.clock.iso.toList ++ (t.offset.map (·.iso.toList)).getD []

theorem DateTime.toList_iso (t : DateTime) :
    t.iso.toList = t.date.iso.toList ++ 'T' :: t.timeChars := by
  unfold DateTime.iso DateTime.isoWith DateTime.timeChars
  cases t.offset <;> simp

theorem Date.length_iso (d : Date) : d.iso.toList.length = 10 := by
  obtain ⟨hyear, ⟨-, hmonth⟩, -, hday⟩ := d.bounds
  have hyear' : (padded d.year 4).toList.length = 4 := length_padded (by decide) (by omega)
  have hmonth' : (padded d.month 2).toList.length = 2 := length_padded (by decide) (by omega)
  have hday' : (padded d.day 2).toList.length = 2 := length_padded (by decide) (by omega)
  rw [d.toList_iso]
  simp only [List.length_append, List.length_cons, hyear', hmonth', hday']

/-- After the year there are a hyphen and a digit. -/
theorem Date.getElem?_iso (d : Date) (rest : List Char) :
    (d.iso.toList ++ rest)[4]? = some '-' ∧ (d.iso.toList ++ rest)[5]? ≠ some 'W' := by
  obtain ⟨hyear, ⟨-, hmonth⟩, -⟩ := d.bounds
  obtain ⟨a, b, c, e, hchars, -⟩ := exists_toList_padded_year (n := d.year) (by omega)
  have hdigit := fun after => padded_append_ne_cons (n := d.month) (by omega) (c := 'W') (by decide)
    ('-' :: (padded d.day 2).toList ++ rest) after
  rw [toList_padded_two (by omega)] at hdigit
  rw [d.toList_iso, hchars, toList_padded_two (n := d.month) (by omega)]
  exact ⟨rfl, fun h => hdigit _ (congrArg (· :: _) (Option.some.inj h))⟩

/-- A date with hyphens takes ten characters. -/
theorem isoDateLength_iso (d : Date) (rest : List Char) :
    isoDateLength (d.iso.toList ++ rest) = 10 := by
  obtain ⟨hhyphen, hdigit⟩ := d.getElem?_iso rest
  have hlength : (d.iso.toList ++ rest).length ≠ 7 := by
    rw [List.length_append, d.length_iso]
    omega
  unfold isoDateLength
  rw [if_neg hlength, if_pos hhyphen]
  simp [hdigit]

theorem dropHyphen_hyphen (cs : List Char) : readIsoWeek?.dropHyphen ('-' :: cs) = some cs := rfl

theorem readIsoDate?_iso (d : Date) (rest : List Char) (length : Nat) :
    readIsoDate? (d.iso.toList ++ rest) length = some d := by
  obtain ⟨hyear, ⟨-, hmonth⟩, -, hday⟩ := d.bounds
  unfold readIsoDate?
  rw [d.toList_iso, List.append_assoc, readDigits_padded 4 (by decide) (by omega)]
  have hmonth' := readDigits_padded 2 (n := d.month) (by decide) (by omega)
    ('-' :: (padded d.day 2).toList ++ rest)
  have hday' := readDigits_padded 2 (n := d.day) (by decide) (by omega) rest
  simp only [Option.bind_eq_bind, Option.bind_some, List.cons_append, List.append_assoc,
    List.head?_cons, beq_self_eq_true, if_true, List.drop_succ_cons, List.drop_zero]
  split
  next after hafter => exact absurd hafter (padded_append_ne_cons (by omega) (by decide) _ _)
  next =>
    rw [List.cons_append] at hmonth'
    rw [hmonth']
    dsimp only [Option.bind_some]
    rw [dropHyphen_hyphen, Option.bind_some, hday']
    exact ofYmd?_self d

/-- The datetime that is read where a datetime was written. -/
def DateTime.asRead (t : DateTime) : DateTime := { t with offset := t.offset.map (·.asRead) }

theorem readIsoTime?_timeChars (t : DateTime) :
    readIsoTime? t.timeChars = some (t.clock, t.asRead.offset) := by
  unfold DateTime.timeChars DateTime.asRead
  cases t.offset with
  | none => simpa using readIsoTime?_clock t.clock
  | some o => exact readIsoTime?_offset t.clock o

theorem DateTime.ofIso?_iso (t : DateTime) {s : String} (hs : s.toList = t.iso.toList) :
    DateTime.ofIso? s = some t.asRead := by
  have hdrop : (t.date.iso.toList ++ 'T' :: t.timeChars).drop 10 = 'T' :: t.timeChars :=
    List.drop_left' t.date.length_iso
  have hlength : ¬ (t.date.iso.toList ++ 'T' :: t.timeChars).length < 7 := by
    rw [List.length_append, t.date.length_iso]
    omega
  unfold DateTime.ofIso?
  rw [hs, t.toList_iso]
  dsimp only
  rw [if_neg hlength, isoDateLength_iso, readIsoDate?_iso, hdrop]
  dsimp only [Option.bind_eq_bind, Option.bind_some]
  rw [readIsoTime?_timeChars]
  rfl

/-- The characters of a written datetime are no blanks and no letter but the one between date and
time. -/
theorem DateTime.mem_iso {t : DateTime} {x : Char} (h : x ∈ t.iso.toList) :
    x.isDigit = true ∨ x ∈ ['-', 'T', '+', ':', '.'] := by
  rw [t.toList_iso] at h
  unfold DateTime.timeChars at h
  simp only [List.mem_append, List.mem_cons] at h
  rcases h with h | rfl | h | h
  · exact (Date.mem_iso h).imp_right fun h => by simp [h]
  · exact .inr (by simp)
  · exact (Clock.mem_iso h).imp_right fun h => by rcases h with rfl | rfl <;> simp
  · cases hoffset : t.offset with
    | none => simp [hoffset] at h
    | some o =>
      rw [hoffset] at h
      exact (Offset.mem_iso h).imp_right fun h => by
        simp only [List.mem_cons] at h ⊢
        tauto

theorem replace_of_not_mem {c : Char} {cs new : List Char} {limit : Option Nat} (h : c ∉ cs) :
    Text.replace [c] new limit cs = cs := by
  change Text.replaceFrom [c] new 0 limit cs = cs
  induction cs with
  | nil => rfl
  | cons x rest ih =>
    rw [List.mem_cons, not_or] at h
    have hprefix : [c].isPrefixOf (x :: rest) = false := by
      rw [List.isPrefixOf, beq_false_of_ne h.1, Bool.false_and]
    have hrest := congrArg (x :: ·) (ih h.2)
    rcases limit with _ | _ | limit
    · rw [Text.replaceFrom, hprefix]
      · exact hrest
      · nofun
    · exact hrest
    · rw [Text.replaceFrom, hprefix]
      · exact hrest
      · nofun

/-- The ISO form of a datetime is read as the datetime, an offset of less than a second as none. -/
theorem DateTime.readIso?_iso (t : DateTime) {s : String} (hs : s.toList = t.iso.toList) :
    DateTime.readIso? s = some t.asRead := by
  have hletter : 'Z' ∉ s.toList := by
    rw [hs]
    intro h
    rcases t.mem_iso h with h | h
    · exact absurd h (by decide)
    · exact absurd h (by decide)
  unfold DateTime.readIso?
  rw [replace_of_not_mem hletter, String.ofList_toList]
  exact t.ofIso?_iso hs

end RecordCalc.Calendar
