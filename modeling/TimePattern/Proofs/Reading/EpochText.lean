import TimePattern.Print
import TimePattern.Proofs.Calendar.Ticking
import TimePattern.Proofs.Field.WrittenNumber
import TimePattern.Proofs.Reading.Finds

/-!
# Seconds since the epoch in texts

Seconds since the epoch are read as a date and a time of day at UTC. An offset that is read before
or behind them does not change these fields, so that the instant of the stamp differs from the one
that was read by that offset. Seconds are printed with a sign, but they are read without one and
only up to the end of the time line.

## Key results

- `Directive.finds_unixSecond_iff`: what is found for a number of seconds, and when
- `readFrom_keeps_fields`: literal characters and offsets leave date and time as they are
- `Pattern.epochSeconds_of_read`: the instant of a stamp that was read from seconds
- `Pattern.read_print_unixSecond_iff`: which printed seconds are read again
-/

namespace TimePattern

/-! ## Directives -/

namespace Directive

/-- The directive stands for a part of the date or of the time of day. -/
def isDateOrTime : Directive → Bool
  | year | year4 | year2 | month | month2 | monthShort | dayOfYear | day | day2 | hour | minute
  | second | unixSecond => true
  | zoneName | offsetColon | offsetCompact | offsetMinutes | space | literal _ | custom _ => false

/-- The seconds are those of a date and a time on the time line. -/
theorem finds_unixSecond_iff {text rest : List Char} {u : Update} :
    unixSecond.Finds text u rest ↔
      ∃ n date time, Field.epochSeconds text = some (n, rest) ∧
        civilOfEpochSeconds? n = some (date, time) ∧ u = .dateAndTime date time := by
  rw [finds_iff_of_field rfl]
  simp only [Update.ofEpochSeconds_eq_ok_iff, exists_and_left]

/-- Other directives than those of date and time find an offset or nothing. -/
theorem Finds.keeps_fields {d : Directive} (hd : d.isDateOrTime = false) {text rest : List Char}
    {u : Update} (h : d.Finds text u rest) (s : Stamp) :
    (u.apply s).date = s.date ∧ (u.apply s).time = s.time := by
  cases d with
  | offsetColon | offsetCompact | offsetMinutes | literal c =>
    obtain ⟨a, -, hu⟩ := exists_of_finds rfl h
    cases hu
    exact ⟨rfl, rfl⟩
  | zoneName | space | custom own =>
    -- These find nothing at all
    obtain ⟨scan, hscan, -⟩ := h
    cases hscan
  | _ => cases hd

end Directive

/-- Built-in directives that stand for no part of date and time leave both as they are. -/
theorem readFrom_keeps_fields {ds : List Directive}
    (hds : ∀ d ∈ ds, d.isCustom = false ∧ d.isDateOrTime = false) {soFar : Stamp}
    {text : List Char} {r : Reading} (h : readFrom soFar text ds = .ok r) :
    r.stamp.date = soFar.date ∧ r.stamp.time = soFar.time := by
  -- Each finding changes the stamp for the directives behind it, hence any `soFar`
  induction ds generalizing soFar text with
  | nil =>
    cases h
    exact ⟨rfl, rfl⟩
  | cons d ds ih =>
    rw [List.forall_mem_cons] at hds
    obtain ⟨u, rest, hfinds, h⟩ := (readFrom_cons_eq_ok_iff hds.1.1).1 h
    obtain ⟨hdate, htime⟩ := hfinds.keeps_fields hds.1.2 soFar
    rw [← hdate, ← htime]
    exact ih hds.2 h

namespace Pattern

/-! ## The instant that was read -/

/-- If no directive of date or time stands behind the seconds since the epoch, then the stamp is
    that of the instant that they name, read at the stamp's own offset, wherever this was found. -/
theorem epochSeconds_of_read {before after : List Directive}
    (hafter : ∀ d ∈ after, d.isCustom = false ∧ d.isDateOrTime = false) {text : List Char}
    {r : Reading} (h : (Pattern.mk (before ++ .unixSecond :: after)).read text = .ok r) :
    ∃ found n rest, (Pattern.mk before).read text = .ok found ∧
      Field.epochSeconds found.rest = some (n, rest) ∧
      r.stamp.epochSeconds = n - 60 * r.stamp.offsetMinutes.toInt ∧
      (r.stamp.epochSeconds = n ↔ r.stamp.offsetMinutes = 0) := by
  rw [read, readFrom_append] at h
  cases hbefore : readFrom default text before with
  | error e =>
    rw [hbefore] at h
    cases h
  | ok found =>
    rw [hbefore] at h
    -- Three stages: what stands before, the seconds, what stands behind
    obtain ⟨u, rest, hfinds, hbehind⟩ := (readFrom_cons_eq_ok_iff rfl).1 h
    obtain ⟨n, date, time, hfield, hcivil, rfl⟩ := Directive.finds_unixSecond_iff.1 hfinds
    -- Date and time are those of the seconds, at UTC, until the end
    obtain ⟨hdate, htime⟩ := readFrom_keeps_fields hafter hbehind
    obtain ⟨-, -, -, -, hn⟩ := civilOfEpochSeconds?_eq_some_iff.1 hcivil
    have hseconds : r.stamp.epochSeconds = n - 60 * r.stamp.offsetMinutes.toInt := by
      rw [Stamp.epochSeconds, hdate, htime, hn]
      simp only [Update.apply]
      omega
    refine ⟨found, n, rest, hbefore, hfield, hseconds, ?_⟩
    rw [hseconds, ← Int32.toInt_inj, Int32.toInt_zero]
    omega

/-- An offset on each side of the seconds, the second of which is kept. The fields are those of the
    instant at UTC, so that the stamp lies 90 minutes behind it. -/
theorem epochSeconds_of_read_offsets :
    let after : List Directive := [.literal ' ', .offsetMinutes]
    let s : Stamp := ⟨⟨1970, .january, 2⟩, ⟨0, 0, 0, 0⟩, -90⟩
    (∀ d ∈ after, d.isCustom = false ∧ d.isDateOrTime = false) ∧
      (Pattern.mk ([.hour, .offsetColon] ++ .unixSecond :: after)).read
        "23-01:0086400 -90".toList = .ok ⟨s, []⟩ ∧
      ∃ found n rest, (Pattern.mk [.hour, .offsetColon]).read "23-01:0086400 -90".toList =
          .ok found ∧
        Field.epochSeconds found.rest = some (n, rest) ∧
        s.epochSeconds = n - 60 * s.offsetMinutes.toInt ∧
        (s.epochSeconds = n ↔ s.offsetMinutes = 0) := by
  intro after s
  have hafter : ∀ d ∈ after, d.isCustom = false ∧ d.isDateOrTime = false := by decide
  -- The first offset is read and then lost to the second
  have hread : (Pattern.mk ([.hour, .offsetColon] ++ .unixSecond :: after)).read
      "23-01:0086400 -90".toList = .ok ⟨s, []⟩ := rfl
  have hinstant := epochSeconds_of_read hafter hread
  exact ⟨hafter, hread, hinstant⟩

/-! ## Seconds that are printed and read again -/

/-- A written number of seconds is taken in as a whole, unless it is too large for 63 bits. -/
theorem epochSeconds_ofNat (n : Nat) :
    Field.epochSeconds (Decimal.ofNat 1 n) =
      if n ≤ 9223372036854775807 then some (n, []) else none := by
  rw [← List.append_nil (Decimal.ofNat 1 n)]
  split
  · next h => exact Field.boundedRun_ofNat h Decimal.endsRun_nil
  · next h => exact Field.boundedRun_ofNat_eq_none (Nat.lt_of_not_le h) Decimal.endsRun_nil

/-- The seconds are printed with their sign and without padding. -/
theorem print_unixSecond (m : Moment) :
    (Pattern.mk [.unixSecond]).print m = Decimal.ofInt 1 m.epochSeconds :=
  print_singleton .unixSecond m

/-- A text that begins with no number of seconds is no match. -/
theorem read_unixSecond_of_none {text : List Char} (h : Field.epochSeconds text = none) :
    (Pattern.mk [.unixSecond]).read text =
      .error (.mismatch ⟨.unixSecond, default, .expected "epoch seconds", text⟩) := by
  rw [read_singleton]
  exact Directive.read_of_field_none rfl h default

/-- A number that is too large for the time line is not one either. -/
theorem read_unixSecond_of_not_onLine {text rest : List Char} {n : Nat}
    (h : Field.epochSeconds text = some (n, rest)) (hn : ¬ ClockReading.OnLine n) :
    (Pattern.mk [.unixSecond]).read text =
      .error (.mismatch ⟨.unixSecond, default, .epochOutOfRange n, text⟩) := by
  have hcivil : civilOfEpochSeconds? n = none := by rw [civilOfEpochSeconds?_eq, if_neg hn]
  have hfinding : Update.ofEpochSeconds n = .error (.epochOutOfRange n) := by
    rw [Update.ofEpochSeconds, hcivil]
  simp only [read, readFrom, Directive.read, Directive.scan?, expecting, h, hfinding, Except.map]

/-- Seconds on the time line are read as their date and time at UTC. -/
theorem read_unixSecond_of_civil {text rest : List Char} {n : Nat} {date : Date}
    {time : TimeOfDay} (h : Field.epochSeconds text = some (n, rest))
    (hcivil : civilOfEpochSeconds? n = some (date, time)) :
    (Pattern.mk [.unixSecond]).read text = .ok ⟨⟨date, time, 0⟩, rest⟩ :=
  (readFrom_cons_eq_ok_iff rfl).2
    ⟨_, rest, Directive.finds_unixSecond_iff.2 ⟨n, date, time, h, hcivil, rfl⟩, rfl⟩

/-- From 1970 to the end of the time line, seconds are read as they were printed. -/
theorem read_print_unixSecond {m : Moment} (h0 : 0 ≤ m.epochSeconds)
    (hlast : m.epochSeconds ≤ ClockReading.lastSecond) :
    ∃ date time, civilOfEpochSeconds? m.epochSeconds = some (date, time) ∧
      (Pattern.mk [.unixSecond]).read ((Pattern.mk [.unixSecond]).print m) =
        .ok ⟨⟨date, time, 0⟩, []⟩ := by
  have hfirst : ClockReading.firstSecond ≤ 0 := by decide
  have hline : ClockReading.OnLine m.epochSeconds := ⟨by omega, hlast⟩
  obtain ⟨⟨date, time⟩, hcivil⟩ := exists_civilOfEpochSeconds?_iff.2 hline
  refine ⟨date, time, hcivil, ?_⟩
  -- The largest number of seconds is far beyond the end of the line
  have hend : ClockReading.lastSecond ≤ 9223372036854775807 := by decide
  have hfield := epochSeconds_ofNat m.epochSeconds.natAbs
  rw [if_pos (by omega)] at hfield
  rw [← Int.natAbs_of_nonneg h0] at hcivil
  rw [print_unixSecond, Decimal.ofInt_of_nonneg h0]
  exact read_unixSecond_of_civil hfield hcivil

/-- Other seconds are refused: a sign is no digit, and a number may lie beyond the line or not even
    be taken in. -/
theorem read_print_unixSecond_mismatch {m : Moment}
    (h : ¬ (0 ≤ m.epochSeconds ∧ m.epochSeconds ≤ ClockReading.lastSecond)) :
    ∃ cause, (Pattern.mk [.unixSecond]).read ((Pattern.mk [.unixSecond]).print m) =
      .error (.mismatch ⟨.unixSecond, default, cause, (Pattern.mk [.unixSecond]).print m⟩) := by
  rw [print_unixSecond]
  by_cases h0 : 0 ≤ m.epochSeconds
  · have hfield := epochSeconds_ofNat m.epochSeconds.natAbs
    rw [Decimal.ofInt_of_nonneg h0]
    by_cases hmax : m.epochSeconds.natAbs ≤ 9223372036854775807
    · -- The number is taken in, but it has no date
      rw [if_pos hmax] at hfield
      have hline : ¬ ClockReading.OnLine m.epochSeconds.natAbs := by
        rintro ⟨-, hlast⟩
        omega
      exact ⟨_, read_unixSecond_of_not_onLine hfield hline⟩
    · rw [if_neg hmax] at hfield
      exact ⟨_, read_unixSecond_of_none hfield⟩
  · -- A minus is printed first
    rw [Decimal.ofInt, if_pos (Int.lt_of_not_ge h0)]
    have hfield : Field.epochSeconds
        ('-' :: Decimal.ofNat (1 - 1) m.epochSeconds.natAbs) = none :=
      Field.boundedRun_eq_none_of_endsRun (Decimal.endsRun_cons.2 rfl)
    exact ⟨_, read_unixSecond_of_none hfield⟩

/-- Seconds since the epoch are read again after printing from 1970 to the last second of the time
    line. The stamp is then at UTC, has a real date and a time of day, and names the same second,
    so that the same text is printed for it. In all other cases the text is left as it is. -/
theorem read_print_unixSecond_iff (m : Moment) :
    let p : Pattern := ⟨[.unixSecond]⟩
    ((∃ r, p.read (p.print m) = .ok r) ↔ 0 ≤ m.epochSeconds ∧ m.epochSeconds ≤
      (⟨⟨262142, .december, 31⟩, ⟨23, 59, 59, 0⟩, 0⟩ : Stamp).epochSeconds) ∧
    (∀ r, p.read (p.print m) = .ok r →
      r.rest = [] ∧ r.stamp.offsetMinutes = 0 ∧ r.stamp.date.IsReal ∧ r.stamp.time.IsWhole ∧
        r.stamp.epochSeconds = m.epochSeconds ∧ p.print r.stamp.moment = p.print m) ∧
    ∀ e, p.read (p.print m) = .error e →
      ∃ cause, e = .mismatch ⟨.unixSecond, default, cause, p.print m⟩ := by
  have hlast : (⟨⟨262142, .december, 31⟩, ⟨23, 59, 59, 0⟩, 0⟩ : Stamp).epochSeconds =
      ClockReading.lastSecond := by decide
  dsimp only
  rw [hlast]
  by_cases h : 0 ≤ m.epochSeconds ∧ m.epochSeconds ≤ ClockReading.lastSecond
  · obtain ⟨date, time, hcivil, hread⟩ := read_print_unixSecond h.1 h.2
    obtain ⟨hreal, hwhole, -, -, hn⟩ := civilOfEpochSeconds?_eq_some_iff.1 hcivil
    -- At UTC the fields count up to the seconds that they were found for
    have hseconds := (Stamp.epochSeconds_utc date time).trans hn.symm
    refine ⟨iff_of_true ⟨_, hread⟩ h, fun r hr => ?_, fun e he => ?_⟩
    · rw [hread] at hr
      cases hr
      refine ⟨rfl, rfl, hreal, hwhole, hseconds, ?_⟩
      rw [print_unixSecond, print_unixSecond, Stamp.epochSeconds_moment, hseconds]
    · rw [hread] at he
      cases he
  · obtain ⟨cause, hread⟩ := read_print_unixSecond_mismatch h
    refine ⟨iff_of_false ?_ h, fun r hr => ?_, fun e he => ?_⟩
    · rintro ⟨r, hr⟩
      rw [hread] at hr
      cases hr
    · rw [hread] at hr
      cases hr
    · rw [hread] at he
      cases he
      exact ⟨cause, rfl⟩

/-- The last second of the time line is read again, but without the offset with which it was
    printed. The second before 1970 is refused at its sign. -/
theorem read_print_unixSecond_iff_lastSecond :
    let p : Pattern := ⟨[.unixSecond]⟩
    let m : Moment := ⟨8210266876799, default, default, some 330⟩
    let s : Stamp := ⟨⟨262142, .december, 31⟩, ⟨23, 59, 59, 0⟩, 0⟩
    (p.read (p.print m) = .ok ⟨s, []⟩ ∧ s.date.IsReal ∧ s.time.IsWhole ∧
      s.epochSeconds = m.epochSeconds ∧ p.print s.moment = p.print m) ∧
    ∃ e cause, p.read (p.print ⟨-1, default, default, none⟩) = .error e ∧
      e = .mismatch ⟨.unixSecond, default, cause, ['-', '1']⟩ := by
  have hlast : (Pattern.mk [.unixSecond]).print ⟨8210266876799, default, default, some 330⟩ =
      "8210266876799".toList := by rfl
  -- The text that is read is the one that was printed, whatever the offset
  have hread : (Pattern.mk [.unixSecond]).read "8210266876799".toList =
      .ok ⟨⟨⟨262142, .december, 31⟩, ⟨23, 59, 59, 0⟩, 0⟩, []⟩ := by rfl
  have hrefused : ∃ e, (Pattern.mk [.unixSecond]).read
      ((Pattern.mk [.unixSecond]).print ⟨-1, default, default, none⟩) = .error e := ⟨_, rfl⟩
  rw [← hlast] at hread
  obtain ⟨-, -, hreal, hwhole, hseconds, hprint⟩ := (read_print_unixSecond_iff _).2.1 _ hread
  obtain ⟨e, he⟩ := hrefused
  obtain ⟨cause, hcause⟩ := (read_print_unixSecond_iff _).2.2 e he
  exact ⟨⟨hread, hreal, hwhole, hseconds, hprint⟩, e, cause, he, hcause⟩

end Pattern

end TimePattern
