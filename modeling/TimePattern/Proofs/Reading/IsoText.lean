import TimePattern.Preset
import TimePattern.Proofs.Reading.PrintedText
import TimePattern.Proofs.Reading.Range

/-!
# ISO 8601 texts

Which stamps the ISO 8601 pattern with date and time prints so that it can read them again.

## Key results

- `readFrom_isoFront`: everything before the offset is read again if it is in range
- `isoDateAndTime_read_print_mismatch`: the offset is not, if it has a hundred hours or more
- `isoDateAndTime_read_print_iff`: the stamps that are read again
-/

namespace TimePattern

/-- The ISO 8601 text holds all of the stamp: no sign before the year, two digits for the other
    parts, no fraction of a second, and an offset of less than a hundred hours. -/
def Stamp.HasIsoText (s : Stamp) : Prop :=
  0 ≤ s.date.year.toInt ∧ s.date.day.toNat ≤ 99 ∧ s.time.hour.toNat ≤ 99 ∧
    s.time.minute.toNat ≤ 99 ∧ s.time.second.toNat ≤ 99 ∧ s.time.nanosecond = 0 ∧
    s.offsetMinutes.toInt.natAbs ≤ 5999

instance (s : Stamp) : Decidable s.HasIsoText := inferInstanceAs (Decidable (_ ∧ _))

/-- The directives of the ISO 8601 date and time before the offset. -/
def isoFront : List Directive :=
  [.year, .literal '-', .month2, .literal '-', .day2, .literal 'T', .hour, .literal ':', .minute,
   .literal ':', .second]

theorem directives_isoDateAndTime :
    Preset.isoDateAndTime.pattern.directives = isoFront ++ [.offsetColon] := rfl

/-- The offset is printed last, with a colon. -/
theorem print_isoDateAndTime (m : Moment) :
    Preset.isoDateAndTime.pattern.print m =
      isoFront.flatMap (·.print m) ++ Offset.colon m.offsetMinutes.toInt := by
  rw [Pattern.print, directives_isoDateAndTime, List.flatMap_append]
  simp [Directive.print]

/-- Everything before the offset is read again if it is in range, whatever follows. -/
theorem readFrom_isoFront {s : Stamp} {maxYear maxOffset : Nat} (hs : s.Within maxYear maxOffset)
    (text : List Char) :
    readFrom default (isoFront.flatMap (·.print s.moment) ++ text) isoFront =
      .ok ⟨{ s with offsetMinutes := 0 }, text⟩ := by
  have hfits : ∀ d ∈ isoFront, d.Fits s := by
    simp only [isoFront, List.forall_mem_cons, List.not_mem_nil, false_implies, implies_true,
      and_true]
    exact ⟨hs.year_nonneg, trivial, trivial, trivial, hs.day_le, trivial, hs.hour_le, trivial,
      hs.minute_le, trivial, hs.second_le⟩
  -- Only the year takes a run of digits, and a hyphen is printed behind it
  have hsep : Separated isoFront := by decide
  have hends : ∀ d ∈ isoFront.getLast?, d.isGreedy = true → Decimal.EndsRun text := by
    rintro d ⟨⟩ hgreedy
    cases hgreedy
  have hstamp : (default : Stamp).overlay s (isoFront.flatMap Directive.writes) =
      { s with offsetMinutes := 0 } := by
    have hnano := hs.nanosecond_eq
    obtain ⟨date, ⟨hour, minute, second, nanosecond⟩, offset⟩ := s
    dsimp only at hnano
    subst hnano
    rfl
  rw [readFrom_print hfits hsep hends, hstamp]

/-- The text of a stamp in range is read again, and whatever follows is left. -/
theorem isoDateAndTime_read_append {s : Stamp} (hs : s.HasIsoText) (text : List Char) :
    Preset.isoDateAndTime.pattern.read
        (Preset.isoDateAndTime.pattern.print s.moment ++ text) = .ok ⟨s, text⟩ := by
  obtain ⟨hyear, hday, hhour, hminute, hsecond, hnano, hoffset⟩ := hs
  have hwithin : s.Within 2147483647 5999 :=
    ⟨hyear, Int32.toInt_le s.date.year, hday, hhour, hminute, hsecond, hnano, hoffset⟩
  -- Nothing but the offset is left, which is the last of the directives
  have hlast : Directive.offsetColon.read { s with offsetMinutes := 0 }
      (Offset.colon s.offsetMinutes.toInt ++ text) = .ok ⟨s, text⟩ := by
    have hfits : Directive.offsetColon.Fits s := hoffset
    exact Directive.read_print hfits (fun hgreedy => nomatch hgreedy)
      { s with offsetMinutes := 0 }
  rw [Pattern.read, directives_isoDateAndTime, print_isoDateAndTime, List.append_assoc,
    readFrom_append, readFrom_isoFront hwithin]
  simp only [Except.bind, readFrom, Stamp.offsetMinutes_moment, hlast]

/-- What the pattern reads is in range, whatever the text. -/
theorem isoDateAndTime_within {text : List Char} {r : Reading}
    (h : Preset.isoDateAndTime.pattern.read text = .ok r) : r.stamp.Within 2147483647 6039 := by
  have hbounded : ∀ d ∈ Preset.isoDateAndTime.pattern.directives,
      d.Bounded 2147483647 6039 := by
    simp only [directives_isoDateAndTime, isoFront, List.cons_append, List.nil_append,
      List.forall_mem_cons, List.not_mem_nil, false_implies, implies_true, and_true]
    simp [Directive.Bounded]
  exact readFrom_within (by decide) (by decide) hbounded (Stamp.within_default _ _) h

/-- An offset of a hundred hours and more is printed with a third digit where the colon is looked
    for. All that stands before the offset is read, and then reading ends. -/
theorem isoDateAndTime_read_print_mismatch {s : Stamp} {maxYear maxOffset : Nat}
    (hs : s.Within maxYear maxOffset) (hoffset : 5999 < s.offsetMinutes.toInt.natAbs) :
    Preset.isoDateAndTime.pattern.read (Preset.isoDateAndTime.pattern.print s.moment) =
      .error (.mismatch ⟨.offsetColon, { s with offsetMinutes := 0 },
        .expected "an offset like +HH:MM", Offset.colon s.offsetMinutes.toInt⟩) := by
  have hnone := Field.offsetColon_colon_eq_none hoffset []
  rw [List.append_nil] at hnone
  -- The first two digits are read as hours, and behind them a third one stands
  have hlast : Directive.offsetColon.read { s with offsetMinutes := 0 }
      (Offset.colon s.offsetMinutes.toInt) =
        .error (.mismatch ⟨.offsetColon, { s with offsetMinutes := 0 },
          .expected "an offset like +HH:MM", Offset.colon s.offsetMinutes.toInt⟩) :=
    Directive.read_of_field_none rfl hnone _
  rw [Pattern.read, directives_isoDateAndTime, print_isoDateAndTime, readFrom_append,
    readFrom_isoFront hs]
  simp only [Except.bind, readFrom, Stamp.offsetMinutes_moment, hlast]

/-- A stamp that is read again lies in range: what was read is in range, whatever was printed. -/
theorem hasIsoText_of_read {s : Stamp}
    (h : Preset.isoDateAndTime.pattern.read
      (Preset.isoDateAndTime.pattern.print s.moment) = .ok ⟨s, []⟩) : s.HasIsoText := by
  have hwithin : s.Within 2147483647 6039 := isoDateAndTime_within h
  refine ⟨hwithin.year_nonneg, hwithin.day_le, hwithin.hour_le, hwithin.minute_le,
    hwithin.second_le, hwithin.nanosecond_eq, ?_⟩
  -- With 99 hours and more than 59 minutes a larger offset can be read, but not what is printed
  -- for it
  apply Nat.le_of_not_lt
  intro hoffset
  rw [isoDateAndTime_read_print_mismatch hwithin hoffset] at h
  cases h

/-- The stamps whose ISO 8601 text is read again are those that the text holds in full. Such a
    text is then read before any other text, digits included. -/
theorem isoDateAndTime_read_print_iff (s : Stamp) :
    let p := Preset.isoDateAndTime.pattern
    (p.read (p.print s.moment) = .ok ⟨s, []⟩ ↔ s.HasIsoText) ∧
      (s.HasIsoText ↔ ∀ text, p.read (p.print s.moment ++ text) = .ok ⟨s, text⟩) := by
  have hempty : (∀ text, Preset.isoDateAndTime.pattern.read
      (Preset.isoDateAndTime.pattern.print s.moment ++ text) = .ok ⟨s, text⟩) →
      Preset.isoDateAndTime.pattern.read
        (Preset.isoDateAndTime.pattern.print s.moment) = .ok ⟨s, []⟩ := by
    intro h
    rw [← h [], List.append_nil]
  refine ⟨⟨hasIsoText_of_read, fun hs => hempty (isoDateAndTime_read_append hs)⟩,
    isoDateAndTime_read_append, fun h => hasIsoText_of_read (hempty h)⟩

end TimePattern
