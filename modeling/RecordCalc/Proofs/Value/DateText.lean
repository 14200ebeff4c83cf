import RecordCalc.Proofs.Calendar.RoundTrip
import RecordCalc.Value.Convert

/-
  Dates as texts. The text of a date or a datetime is read as the same one again, with blanks around
  it too (`toDate?_written`), except that an offset of less than a second comes back as universal
  time.
-/

namespace RecordCalc.Value

open Calendar (Date DateTime Offset secondMicros)

namespace DateLike

/-- The ISO form. -/
def iso : DateLike → String
  | date d => d.iso
  | datetime t => t.iso

theorem toText_toValue (d : DateLike) : d.toValue.toText = .ok d.iso := by
  cases d <;> rfl

/-- What is read where a date was written. -/
def asRead : DateLike → DateLike
  | date d => date d
  | datetime t => datetime t.asRead

/-- A datetime has an offset from universal time that is less than a second. -/
def HasSubsecondOffset : DateLike → Prop
  | date _ => False
  | datetime t => ∃ o, t.offset = some o ∧ o.micros ≠ 0 ∧ o.micros.natAbs < secondMicros

theorem isBlank_of_mem_iso {d : DateLike} {c : Char} (h : c ∈ d.iso.toList) :
    Text.isBlank c = false := by
  cases d with
  | date d =>
    rcases d.mem_iso h with h | rfl
    · exact Text.isBlank_of_isDigit h
    · decide
  | datetime t =>
    rcases t.mem_iso h with h | h
    · exact Text.isBlank_of_isDigit h
    · simp only [List.mem_cons, List.not_mem_nil, or_false] at h
      rcases h with rfl | rfl | rfl | rfl | rfl <;> rfl

end DateLike

theorem toDate?_text (s : String) : (text s).toDate? = readDate? s := rfl

/-- A written date is read with blanks around it. -/
theorem toDate?_written (d : DateLike) {before after : List Char}
    (hbefore : ∀ c ∈ before, Text.isBlank c = true) (hafter : ∀ c ∈ after, Text.isBlank c = true) :
    (text (String.ofList (before ++ d.iso.toList ++ after))).toDate? = some d.asRead := by
  have htrim : Text.trim (String.ofList (before ++ d.iso.toList ++ after)) = d.iso := by
    rw [Text.trim, String.toList_ofList,
      Text.trimChars_surrounded hbefore hafter fun c => DateLike.isBlank_of_mem_iso,
      String.ofList_toList]
  rw [toDate?_text]
  unfold readDate?
  rw [htrim]
  dsimp only
  cases d with
  | date d =>
    rw [DateLike.iso, d.read?_iso]
    rfl
  | datetime t =>
    rw [DateLike.iso, t.date.read?_longer t.toList_iso, t.readIso?_iso rfl]
    rfl

namespace DateLike

theorem hasSubsecondOffset_datetime {t : DateTime} :
    (datetime t).HasSubsecondOffset ↔
      ∃ o, t.offset = some o ∧ o.micros ≠ 0 ∧ o.micros.natAbs < secondMicros := Iff.rfl

theorem asRead_eq_iff (d : DateLike) : d.asRead = d ↔ ¬ d.HasSubsecondOffset := by
  cases d with
  | date d => exact iff_of_true rfl id
  | datetime t =>
    obtain ⟨date, clock, offset⟩ := t
    rw [hasSubsecondOffset_datetime]
    cases offset with
    | none => exact iff_of_true rfl fun ⟨_, h, _⟩ => nomatch h
    | some o =>
      have hread : (datetime ⟨date, clock, some o⟩).asRead = datetime ⟨date, clock, some o⟩ ↔
          o.asRead = o := by
        simp [asRead, DateTime.asRead]
      rw [hread, o.asRead_eq_iff]
      simp

/-- An offset of less than a second is read as universal time. -/
theorem asRead_of_hasSubsecondOffset {t : DateTime} (h : (datetime t).HasSubsecondOffset) :
    (datetime t).asRead = datetime { t with offset := some .utc } := by
  obtain ⟨o, ho, -, hsmall⟩ := h
  have hread : o.asRead = .utc := if_pos hsmall
  rw [asRead, DateTime.asRead, ho, Option.map_some, hread]

end DateLike

/-- A date has a text, which is read as that date unless its offset is less than a second; such an
offset is read as universal time. Blanks around the text make no difference. -/
theorem toDate?_toText_iff (d : DateLike) :
    ∃ s, d.toValue.toText = .ok s ∧
      ∀ before after : List Char, (∀ c ∈ before, Text.isBlank c = true) →
        (∀ c ∈ after, Text.isBlank c = true) →
        ((text (String.ofList (before ++ s.toList ++ after))).toDate? = some d ↔
            ¬ d.HasSubsecondOffset) ∧
          ∀ t, d = .datetime t → d.HasSubsecondOffset →
            (text (String.ofList (before ++ s.toList ++ after))).toDate? =
              some (.datetime { t with offset := some .utc }) := by
  refine ⟨d.iso, d.toText_toValue, fun before after hbefore hafter => ?_⟩
  rw [toDate?_written d hbefore hafter, ← d.asRead_eq_iff]
  refine ⟨Option.some_inj, ?_⟩
  rintro t rfl h
  rw [DateLike.asRead_of_hasSubsecondOffset h]

/-- The last moment of a leap day with microseconds, on a clock that is five hours, thirty minutes
and fifteen and a half seconds behind, with a line feed and a space around it. -/
theorem toDate?_toText_leapDay :
    let t : DateTime := ⟨⟨2024, 2, 29, by decide⟩, ⟨86399999999, by decide⟩,
      some ⟨-19815500000, by decide⟩⟩
    (DateLike.datetime t).toValue.toText = .ok "2024-02-29T23:59:59.999999-05:30:15.500000" ∧
      ¬ (DateLike.datetime t).HasSubsecondOffset ∧
      (text "\n2024-02-29T23:59:59.999999-05:30:15.500000 ").toDate? = some (.datetime t) := by
  intro t
  have hiso : t.iso = "2024-02-29T23:59:59.999999-05:30:15.500000" := by decide +kernel
  have htext : (DateLike.datetime t).toValue.toText =
      .ok "2024-02-29T23:59:59.999999-05:30:15.500000" := congrArg Except.ok hiso
  have hoffset : ¬ (DateLike.datetime t).HasSubsecondOffset := by
    rintro ⟨o, ho, -, hsmall⟩
    cases ho
    exact absurd hsmall (by decide)
  have hblanks : String.ofList (['\n'] ++ "2024-02-29T23:59:59.999999-05:30:15.500000".toList ++
      [' ']) = "\n2024-02-29T23:59:59.999999-05:30:15.500000 " := by decide +kernel
  obtain ⟨s, hs, hread⟩ := toDate?_toText_iff (.datetime t)
  obtain rfl : "2024-02-29T23:59:59.999999-05:30:15.500000" = s :=
    Except.ok.inj (htext.symm.trans hs)
  refine ⟨htext, hoffset, ?_⟩
  rw [← hblanks]
  exact (hread ['\n'] [' '] (List.forall_mem_singleton.2 rfl)
    (List.forall_mem_singleton.2 rfl)).1.2 hoffset

/-- An offset of one microsecond is lost. -/
theorem not_toDate?_toText_microsecond :
    let t : DateTime := ⟨⟨2024, 1, 1, by decide⟩, .midnight, some ⟨1, by decide⟩⟩
    (DateLike.datetime t).toValue.toText = .ok "2024-01-01T00:00:00+00:00:00.000001" ∧
      (text "2024-01-01T00:00:00+00:00:00.000001").toDate? =
        some (.datetime { t with offset := some .utc }) ∧
      DateLike.datetime { t with offset := some .utc } ≠ .datetime t := by
  intro t
  have hiso : t.iso = "2024-01-01T00:00:00+00:00:00.000001" := by decide +kernel
  have hread := @toDate?_written (.datetime t) [] [] nofun nofun
  rw [List.nil_append, List.append_nil, String.ofList_toList, DateLike.iso, hiso] at hread
  refine ⟨congrArg Except.ok hiso, hread, ?_⟩
  rw [ne_eq, DateLike.datetime.injEq]
  decide

end RecordCalc.Value
