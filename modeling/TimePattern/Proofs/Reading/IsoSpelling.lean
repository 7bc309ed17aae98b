import TimePattern.Proofs.Reading.IsoText

/-!
# Spellings of ISO 8601 texts

Many texts are read as one stamp: the year may have leading zeros, the number of a month may lie
beyond 12, and an offset may have no sign or more than 59 minutes. Printing what was read gives one
of these texts, and reading that gives the stamp again. The exception is an offset whose minutes
carry its hours from 99 to 100.

## Key results

- `readFrom_marked_iff`: two digits behind a separator
- `isoDateAndTime_read_iff`: the texts that are read are the spellings
- `IsoSpelling.offset_le_iff`: which spellings have an offset of a hundred hours
- `isoDateAndTime_reread_iff`: which texts are read again after printing
-/

namespace TimePattern

open TimePattern.Field (DigitText SignText OffsetText)
open Decimal (EndsRun)

/-- The parts of a date and time as they stand in an ISO 8601 text. -/
structure IsoSpelling where
  year : List Char
  month : List Char
  day : List Char
  hour : List Char
  minute : List Char
  second : List Char
  /-- The sign of the offset, or nothing. -/
  mark : List Char
  /-- Whether the sign is a minus. -/
  negative : Bool
  offsetHours : List Char
  offsetMinutes : List Char
  year_ne_nil : year ≠ []
  year_digits : ∀ c ∈ year, c.isDigit = true
  year_le : Decimal.value year ≤ 2147483647
  month_digits : DigitText 2 month
  day_digits : DigitText 2 day
  hour_digits : DigitText 2 hour
  minute_digits : DigitText 2 minute
  second_digits : DigitText 2 second
  mark_sign : SignText negative mark
  offsetHours_digits : DigitText 2 offsetHours
  offsetMinutes_digits : DigitText 2 offsetMinutes

namespace IsoSpelling

/-- The text in which the parts stand. -/
def text (t : IsoSpelling) : List Char :=
  t.year ++ '-' :: (t.month ++ '-' :: (t.day ++ 'T' :: (t.hour ++ ':' :: (t.minute ++ ':' ::
    (t.second ++ (t.mark ++ (t.offsetHours ++ ':' :: t.offsetMinutes)))))))

/-- The offset in minutes. -/
def offset (t : IsoSpelling) : Int :=
  Field.signed t.negative (Decimal.value t.offsetHours * 60 + Decimal.value t.offsetMinutes)

/-- The stamp that the parts denote. Months are counted in a circle, so that 00 is December and 13
    is January. -/
def stamp (t : IsoSpelling) : Stamp where
  date.year := Int32.ofNat (Decimal.value t.year)
  date.month := Month.ofOrdinal ((Decimal.value t.month : Int) - 1)
  date.day := UInt8.ofNat (Decimal.value t.day)
  time.hour := UInt8.ofNat (Decimal.value t.hour)
  time.minute := UInt8.ofNat (Decimal.value t.minute)
  time.second := UInt8.ofNat (Decimal.value t.second)
  time.nanosecond := 0
  offsetMinutes := Int32.ofInt t.offset

/-- The offset has 99 hours, and its minutes make another one. -/
def Carries (t : IsoSpelling) : Prop :=
  Decimal.value t.offsetHours = 99 ∧ 60 ≤ Decimal.value t.offsetMinutes

instance (t : IsoSpelling) : Decidable t.Carries := inferInstanceAs (Decidable (_ ∧ _))

/-- Minutes beyond 59 add to the hours, which is a hundred hours in the one case only. -/
theorem offset_le_iff (t : IsoSpelling) :
    t.stamp.offsetMinutes.toInt.natAbs ≤ 5999 ↔ ¬ t.Carries := by
  have hhours := t.offsetHours_digits.value_lt
  have hminutes := t.offsetMinutes_digits.value_lt
  have habs : t.offset.natAbs =
      Decimal.value t.offsetHours * 60 + Decimal.value t.offsetMinutes :=
    Field.natAbs_signed _ _
  have hoffset : t.stamp.offsetMinutes.toInt = t.offset := toInt_int32_ofInt (by omega)
  rw [hoffset, habs, Carries]
  -- 98 hours and 99 minutes still make less than a hundred hours
  omega

end IsoSpelling

/-! ## Directives -/

section Run

variable {soFar : Stamp} {text : List Char} {ds : List Directive} {r : Reading}

/-- A literal character in front is taken off. -/
theorem readFrom_literal_iff {c : Char} :
    readFrom soFar text (.literal c :: ds) = .ok r ↔
      ∃ rest, text = c :: rest ∧ readFrom soFar rest ds = .ok r := by
  rw [readFrom_cons_eq_ok_iff rfl]
  constructor
  · intro h
    obtain ⟨u, rest, hfinds, h⟩ := h
    obtain ⟨d, hfield, hu⟩ := Directive.exists_of_finds rfl hfinds
    cases hu
    exact ⟨rest, (Field.literal_eq_some_iff.1 hfield).2, h⟩
  · intro h
    obtain ⟨rest, rfl, h⟩ := h
    exact ⟨.nothing, rest, Directive.finds_of_field rfl (Field.literal_self c rest) rfl, h⟩

/-- Two digits behind a separator are read by a directive of two digits, whatever follows. -/
theorem readFrom_marked_iff {c : Char} {d : Directive} {what : String} {finding : Nat → Update}
    (hscan : d.scan? = some (expecting what (Field.fixedDigits 2) (.ok ∘ finding))) :
    readFrom soFar text (.literal c :: d :: ds) = .ok r ↔
      ∃ digits rest, DigitText 2 digits ∧ text = c :: (digits ++ rest) ∧
        readFrom ((finding (Decimal.value digits)).apply soFar) rest ds = .ok r := by
  simp only [readFrom_literal_iff,
    readFrom_cons_eq_ok_iff (Directive.not_custom_of_scan? hscan),
    Directive.finds_iff_of_field hscan,
    Field.fixedDigits_eq_some_iff_digitText (Nat.zero_lt_two) (by decide : 2 ≤ 9)]
  -- Both directives one after the other, each by what its field reader takes
  constructor
  · intro h
    obtain ⟨_, rfl, u, rest, ⟨n, ⟨digits, hdigits, rfl, rfl⟩, hu⟩, h⟩ := h
    cases hu
    exact ⟨digits, rest, hdigits, rfl, h⟩
  · intro h
    obtain ⟨digits, rest, hdigits, rfl, h⟩ := h
    exact ⟨_, rfl, _, rest, ⟨_, ⟨digits, hdigits, rfl, rfl⟩, rfl⟩, h⟩

/-- A year in front is a run of digits that is small enough. -/
theorem readFrom_year_iff :
    readFrom soFar text (.year :: ds) = .ok r ↔
      ∃ digits rest, digits ≠ [] ∧ (∀ c ∈ digits, c.isDigit = true) ∧
        Decimal.value digits ≤ 2147483647 ∧ EndsRun rest ∧ text = digits ++ rest ∧
        readFrom ((Update.ofYear (Decimal.value digits)).apply soFar) rest ds = .ok r := by
  rw [readFrom_cons_eq_ok_iff rfl]
  -- The run is taken as a whole, so that no digit is left at the front of `rest`
  constructor
  · intro h
    obtain ⟨u, rest, hfinds, h⟩ := h
    obtain ⟨n, hfield, hu⟩ := Directive.exists_of_finds rfl hfinds
    cases hu
    obtain ⟨digits, htext, hall, hne, hends, rfl, hle⟩ := Field.boundedRun_eq_some_iff.1 hfield
    exact ⟨digits, rest, hne, hall, hle, hends, htext, h⟩
  · intro h
    obtain ⟨digits, rest, hne, hall, hle, hends, htext, h⟩ := h
    have hfield := Field.boundedRun_eq_some_iff.2 ⟨digits, htext, hall, hne, hends, rfl, hle⟩
    exact ⟨_, rest, Directive.finds_of_field rfl hfield rfl, h⟩

/-- An offset at the end writes its minutes into the stamp. -/
theorem readFrom_offsetColon_iff :
    readFrom soFar text [.offsetColon] = .ok r ↔
      ∃ m taken, OffsetText [':'] m taken ∧ text = taken ++ r.rest ∧
        r.stamp = { soFar with offsetMinutes := Int32.ofInt m } := by
  rw [readFrom_cons_eq_ok_iff rfl]
  constructor
  · intro h
    obtain ⟨u, rest, hfinds, h⟩ := h
    obtain ⟨m, hfield, hu⟩ := Directive.exists_of_finds rfl hfinds
    cases hu
    cases h
    obtain ⟨taken, hm, htext⟩ := Field.offsetColon_eq_some_iff.1 hfield
    exact ⟨m, taken, hm, htext, rfl⟩
  · intro h
    obtain ⟨m, taken, hm, htext, hstamp⟩ := h
    have hfield := Field.offsetColon_eq_some_iff.2 ⟨taken, hm, htext⟩
    refine ⟨_, r.rest, Directive.finds_of_field rfl hfield rfl, ?_⟩
    -- Nothing is read behind the offset
    rw [readFrom, ← show r.stamp = (Update.ofOffset m).apply soFar from hstamp]

end Run

/-! ## The pattern -/

/-- The texts that the pattern reads are those that begin with a spelling, and it leaves what stands
    behind that. -/
theorem isoDateAndTime_read_iff {text : List Char} {r : Reading} :
    Preset.isoDateAndTime.pattern.read text = .ok r ↔
      ∃ t : IsoSpelling, text = t.text ++ r.rest ∧ r.stamp = t.stamp := by
  rw [Pattern.read, directives_isoDateAndTime, isoFront]
  simp only [List.cons_append, List.nil_append]
  constructor
  · -- The separators part the text, so each part is found behind the one before it
    intro h
    obtain ⟨year, _, hne, hyear, hle, -, rfl, h₁⟩ := readFrom_year_iff.1 h
    obtain ⟨month, _, hmonth, rfl, h₂⟩ := (readFrom_marked_iff rfl).1 h₁
    obtain ⟨day, _, hday, rfl, h₃⟩ := (readFrom_marked_iff rfl).1 h₂
    obtain ⟨hour, _, hhour, rfl, h₄⟩ := (readFrom_marked_iff rfl).1 h₃
    obtain ⟨minute, _, hminute, rfl, h₅⟩ := (readFrom_marked_iff rfl).1 h₄
    obtain ⟨second, _, hsecond, rfl, h₆⟩ := (readFrom_marked_iff rfl).1 h₅
    obtain ⟨m, offset, ⟨negative, mark, hours, minutes, hmark, hhours, hminutes, rfl, rfl⟩, rfl,
      hstamp⟩ := readFrom_offsetColon_iff.1 h₆
    exact ⟨⟨year, month, day, hour, minute, second, mark, negative, hours, minutes, hne, hyear, hle,
      hmonth, hday, hhour, hminute, hsecond, hmark, hhours, hminutes⟩,
      by simp [IsoSpelling.text], hstamp⟩
  · intro h
    obtain ⟨t, rfl, hstamp⟩ := h
    have hoffset : OffsetText [':'] t.offset
        (t.mark ++ (t.offsetHours ++ ([':'] ++ t.offsetMinutes))) :=
      ⟨_, _, _, _, t.mark_sign, t.offsetHours_digits, t.offsetMinutes_digits, rfl, rfl⟩
    simp only [IsoSpelling.text, List.append_assoc, List.cons_append]
    -- The hyphen ends the digits of the year, all other parts have their length
    refine readFrom_year_iff.2 ⟨t.year, _, t.year_ne_nil, t.year_digits, t.year_le,
      Decimal.endsRun_cons.2 rfl, rfl, ?_⟩
    refine (readFrom_marked_iff rfl).2 ⟨t.month, _, t.month_digits, rfl, ?_⟩
    refine (readFrom_marked_iff rfl).2 ⟨t.day, _, t.day_digits, rfl, ?_⟩
    refine (readFrom_marked_iff rfl).2 ⟨t.hour, _, t.hour_digits, rfl, ?_⟩
    refine (readFrom_marked_iff rfl).2 ⟨t.minute, _, t.minute_digits, rfl, ?_⟩
    refine (readFrom_marked_iff rfl).2 ⟨t.second, _, t.second_digits, rfl, ?_⟩
    exact readFrom_offsetColon_iff.2 ⟨t.offset, _, hoffset, by simp, hstamp⟩

/-! ## Printing and reading again -/

section Reread

variable {text rest : List Char} {s : Stamp}

/-- What was read is printed in full if its offset has less than a hundred hours. -/
theorem isoDateAndTime_reread (h : Preset.isoDateAndTime.pattern.read text = .ok ⟨s, rest⟩)
    (hoffset : s.offsetMinutes.toInt.natAbs ≤ 5999) :
    Preset.isoDateAndTime.pattern.read (Preset.isoDateAndTime.pattern.print s.moment) =
      .ok ⟨s, []⟩ := by
  have hs : s.Within 2147483647 6039 := isoDateAndTime_within h
  -- What was read is in range, but for the hours of the offset
  have hiso : s.HasIsoText := ⟨hs.year_nonneg, hs.day_le, hs.hour_le, hs.minute_le, hs.second_le,
    hs.nanosecond_eq, hoffset⟩
  have hread := isoDateAndTime_read_append hiso []
  rwa [List.append_nil] at hread

/-- Otherwise nothing is read. -/
theorem isoDateAndTime_reread_ne_ok (h : Preset.isoDateAndTime.pattern.read text = .ok ⟨s, rest⟩)
    (hoffset : 5999 < s.offsetMinutes.toInt.natAbs) (again : Reading) :
    Preset.isoDateAndTime.pattern.read (Preset.isoDateAndTime.pattern.print s.moment) ≠
      .ok again := by
  have hs : s.Within 2147483647 6039 := isoDateAndTime_within h
  rw [isoDateAndTime_read_print_mismatch hs hoffset]
  exact nofun

end Reread

/-- A stamp that was read is read again after printing, up to the end of the printed text, if its
    offset has less than a hundred hours. It then has been read from a spelling whose offset does
    not carry, and each such spelling, with whatever behind it, is brought into a form that denotes
    the same stamp. -/
theorem isoDateAndTime_reread_iff :
    let p : Pattern := Preset.isoDateAndTime.pattern
    (∀ text r, p.read text = .ok r →
      (p.read (p.print r.stamp.moment) = .ok ⟨r.stamp, []⟩ ↔
        r.stamp.offsetMinutes.toInt.natAbs ≤ 5999) ∧
      ∃ t : IsoSpelling, text = t.text ++ r.rest ∧ r.stamp = t.stamp ∧
        ((∀ again, p.read (p.print r.stamp.moment) ≠ .ok again) ↔ t.Carries)) ∧
    ∀ t : IsoSpelling, ¬ t.Carries → ∀ rest,
      p.read (t.text ++ rest) = .ok ⟨t.stamp, rest⟩ ∧
        p.read (p.print t.stamp.moment) = .ok ⟨t.stamp, []⟩ := by
  constructor
  · intro text r h
    constructor
    · constructor
      · -- A larger offset is not read at all, so not with this result either
        intro hread
        apply Nat.le_of_not_lt
        intro hoffset
        exact isoDateAndTime_reread_ne_ok h hoffset _ hread
      · exact isoDateAndTime_reread h
    · obtain ⟨t, htext, hstamp⟩ := isoDateAndTime_read_iff.1 h
      refine ⟨t, htext, hstamp, ?_⟩
      have hcarries := t.offset_le_iff
      rw [← hstamp] at hcarries
      constructor
      · intro hnever
        apply Decidable.of_not_not
        intro hnot
        exact hnever _ (isoDateAndTime_reread h (hcarries.2 hnot))
      · intro hcarry
        exact isoDateAndTime_reread_ne_ok h (Nat.lt_of_not_le fun hle => hcarries.1 hle hcarry)
  · -- Each spelling is accepted, and one that does not carry has a small offset
    intro t hcarry rest
    have h : Preset.isoDateAndTime.pattern.read (t.text ++ rest) = .ok ⟨t.stamp, rest⟩ :=
      isoDateAndTime_read_iff.2 ⟨t, rfl, rfl⟩
    exact ⟨h, isoDateAndTime_reread h (t.offset_le_iff.2 hcarry)⟩

/-- Leading zeros, the month 13, a minus without hours and 75 minutes are read, and their canonical
    text is read again. A hundred hours, written as 99 hours and 60 minutes, are read once. -/
theorem isoDateAndTime_reread_iff_leadingZeros :
    let p := Preset.isoDateAndTime.pattern
    let t : IsoSpelling :=
      ⟨['0', '0', '7'], ['1', '3'], ['3', '1'], ['2', '5'], ['6', '1'], ['6', '0'], ['-'], true,
        ['0', '0'], ['7', '5'], by decide, by simp, by decide, ⟨rfl, by simp⟩,
        ⟨rfl, by simp⟩, ⟨rfl, by simp⟩, ⟨rfl, by simp⟩, ⟨rfl, by simp⟩, .minus, ⟨rfl, by simp⟩,
        ⟨rfl, by simp⟩⟩
    let s : Stamp := ⟨⟨7, .december, 0⟩, ⟨0, 0, 0, 0⟩, 6000⟩
    (¬ t.Carries ∧ t.text = "007-13-31T25:61:60-00:75".toList ∧
      t.stamp = ⟨⟨7, .january, 31⟩, ⟨25, 61, 60, 0⟩, -75⟩ ∧
      p.read (p.print t.stamp.moment) = .ok ⟨t.stamp, []⟩) ∧
    p.read "7-00-00T00:00:0099:60".toList = .ok ⟨s, []⟩ ∧
      (p.read (p.print s.moment) = .ok ⟨s, []⟩ ↔ s.offsetMinutes.toInt.natAbs ≤ 5999) := by
  intro p t s
  -- 75 minutes carry an hour, but not the hundredth
  have hcarry : ¬ t.Carries := by decide
  have hread : p.read "7-00-00T00:00:0099:60".toList = .ok ⟨s, []⟩ := rfl
  exact ⟨⟨hcarry, rfl, by decide, (isoDateAndTime_reread_iff.2 t hcarry []).2⟩, hread,
    (isoDateAndTime_reread_iff.1 _ _ hread).1⟩

end TimePattern
