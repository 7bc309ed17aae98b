import TimePattern.Proofs.Stamp.Validated

/-!
# Which stamps name an instant

A stamp has a validated form if its date is one of the calendar and its time one that a clock can
show, in whichever way a leap second is written, and if both the local day and the day at UTC lie in
the years of the time line. The instant is then the one that the stamp counts in its epoch seconds,
where a leap second counts as the second before it. A fraction of second 60 that wraps around in 32
bits is left out.

## Key results

- `Stamp.wall?_eq_some_iff_fields`: the reading of a stamp, by the ranges of its fields
- `Stamp.onLine_iff_utcDay`: the second at UTC is on the time line if the day is
- `Stamp.exists_toZoned?_iff`: the stamps with a validated form, and the instants that they name
-/

namespace TimePattern

/-! ## Readings -/

namespace TimeOfDay

/-- A clock can show the time. The leap second after second 59 is either second 60 or second 59 with
    a fraction of a second or more. -/
def IsShown (t : TimeOfDay) : Prop :=
  t.hour.toNat < 24 ∧ t.minute.toNat < 60 ∧
    (t.second.toNat < 60 ∧ t.nanosecond.toNat < 1000000000 ∨
      t.second.toNat = 59 ∧ t.nanosecond.toNat < 2000000000 ∨
      t.second.toNat = 60 ∧ t.nanosecond.toNat < 1000000000)

instance (t : TimeOfDay) : Decidable t.IsShown := inferInstanceAs (Decidable (_ ∧ _))

/-- How far the second field is ahead of the second before a leap second. -/
def ahead (t : TimeOfDay) : Nat := if t.second = 60 then 1 else 0

/-- It is ahead by one second, and just in second 60. -/
theorem ahead_cases (t : TimeOfDay) :
    t.second.toNat = 60 ∧ t.ahead = 1 ∨ t.second.toNat ≠ 60 ∧ t.ahead = 0 := by
  unfold ahead
  split
  · next h => exact .inl ⟨congrArg UInt8.toNat h, rfl⟩
  · next h => exact .inr ⟨fun h60 => h (UInt8.toNat_inj.1 h60), rfl⟩

end TimeOfDay

namespace Stamp

/-- A stamp describes a reading if its date is real and in the years of the time line, and its time
    is one that a clock can show. -/
theorem wall?_eq_some_iff_fields {s : Stamp} (hfits : s.time.LeapFits) {r : ClockReading} :
    s.wall? = some r ↔
      s.date.IsReal ∧ (Date.firstYear ≤ s.date.year.toInt ∧ s.date.year.toInt ≤ Date.lastYear) ∧
        s.time.IsShown ∧
        r.seconds = s.date.epochDay * 86400 + (s.time.secondsOfDay - s.time.ahead) ∧
        r.nanoseconds = s.time.ahead * 1000000000 + s.time.nanosecond.toNat := by
  have hclock := TimeOfDay.clock_cases hfits
  have hahead := s.time.ahead_cases
  rw [wall?, ClockReading.ofFields?_eq_some_iff, TimeOfDay.IsShown, TimeOfDay.secondsOfDay]
  constructor
  · -- Whether a reading is valid is read off the fields
    intro h
    obtain ⟨hreal, hhour, hminute, hlt, ⟨hline, hnano⟩, rfl⟩ := h
    have hyear := (ClockReading.onLine_iff hreal (by omega) (by omega)).1 hline
    dsimp only at hnano ⊢
    exact ⟨hreal, hyear, ⟨hhour, hminute, by omega⟩, by omega, by omega⟩
  · intro h
    obtain ⟨hreal, hyear, ⟨hhour, hminute, hshown⟩, hseconds, hnano⟩ := h
    have hline : ClockReading.OnLine r.seconds := by
      rw [hseconds]
      exact (ClockReading.onLine_iff hreal (by omega) (by omega)).2 hyear
    -- Only second 59 leaves room for a leap second
    have hlast : r.nanoseconds < 1000000000 ∨ r.nanoseconds < 2000000000 ∧ r.seconds % 60 = 59 := by
      omega
    obtain ⟨seconds, nanoseconds⟩ := r
    dsimp only at hseconds hnano
    refine ⟨hreal, hhour, hminute, by omega, ⟨hline, hlast⟩, ?_⟩
    rw [ClockReading.mk.injEq]
    omega

/-! ## Instants -/

/-- The number of the day at UTC. The offset is in whole minutes, so that the second plays no
    part. -/
def utcDay (s : Stamp) : Int :=
  s.date.epochDay +
    (s.time.hour.toNat * 60 + s.time.minute.toNat - s.offsetMinutes.toInt) / 1440

/-- The instant of the stamp is on the time line if its day at UTC lies between the first day of the
    first year and the last day of the last one. -/
theorem onLine_iff_utcDay {s : Stamp} (htime : s.time.IsShown) :
    ClockReading.OnLine (s.epochSeconds - s.time.ahead) ↔
      dayNumber Date.firstYear .january 1 ≤ s.utcDay ∧
        s.utcDay ≤ dayNumber Date.lastYear .december 31 := by
  obtain ⟨-, -, hshown⟩ := htime
  have hahead := s.time.ahead_cases
  rw [ClockReading.OnLine, ClockReading.firstSecond_eq, ClockReading.lastSecond_eq, epochSeconds,
    TimeOfDay.secondsOfDay, utcDay]
  generalize dayNumber Date.firstYear .january 1 = first
  generalize dayNumber Date.lastYear .december 31 = last
  -- The second is at most 59 once the leap second is off, and stays within its minute
  omega

/-- The fields of the stamp name an instant on the time line. -/
structure Representable (s : Stamp) : Prop where
  date_isReal : s.date.IsReal
  year_mem : Date.firstYear ≤ s.date.year.toInt ∧ s.date.year.toInt ≤ Date.lastYear
  time_isShown : s.time.IsShown
  /-- The offset is less than a day. -/
  offset_le : s.offsetMinutes.toInt.natAbs ≤ 1439
  /-- The day at UTC lies in the years of the time line too. -/
  utcDay_mem : dayNumber Date.firstYear .january 1 ≤ s.utcDay ∧
    s.utcDay ≤ dayNumber Date.lastYear .december 31

/-- The instant of a stamp whose fields name one. An offset in whole minutes leaves the leap second
    in the second that it follows. -/
theorem Representable.valid {s : Stamp} (h : s.Representable) :
    ClockReading.Valid ⟨s.epochSeconds - s.time.ahead,
      s.time.ahead * 1000000000 + s.time.nanosecond.toNat⟩ := by
  have hline := (onLine_iff_utcDay h.time_isShown).2 h.utcDay_mem
  refine ⟨hline, ?_⟩
  obtain ⟨-, -, hshown⟩ := h.time_isShown
  have hahead := s.time.ahead_cases
  -- Days, hours, minutes and the offset are whole minutes, so that the second field is what is left
  dsimp only
  rw [epochSeconds, TimeOfDay.secondsOfDay]
  omega

/-- The validated form of a stamp, by the fields of the stamp. -/
theorem toZoned?_eq_some_iff_fields {s : Stamp} (hfits : s.time.LeapFits) {z : ZonedDateTime} :
    s.toZoned? = some z ↔
      s.Representable ∧ z.utc.seconds = s.epochSeconds - s.time.ahead ∧
        z.utc.nanoseconds = s.time.ahead * 1000000000 + s.time.nanosecond.toNat ∧
        z.offsetSeconds = s.offsetMinutes.toInt * 60 := by
  rw [toZoned?_eq_some_iff, wall?_eq_some_iff_fields hfits]
  simp only [ZonedDateTime.wall]
  constructor
  · intro h
    obtain ⟨⟨hreal, hyear, hshown, hseconds, hnano⟩, hoffset⟩ := h
    have hlt := z.offset_lt
    -- UTC is behind the clock on the wall by the offset
    have hutc : z.utc.seconds = s.epochSeconds - s.time.ahead := by
      rw [epochSeconds]
      omega
    have hday := (onLine_iff_utcDay hshown).1 (hutc ▸ z.valid.1)
    exact ⟨⟨hreal, hyear, hshown, by omega, hday⟩, hutc, hnano, hoffset⟩
  · intro h
    obtain ⟨⟨hreal, hyear, hshown, -, -⟩, hutc, hnano, hoffset⟩ := h
    rw [epochSeconds] at hutc
    exact ⟨⟨hreal, hyear, hshown, by omega, hnano⟩, hoffset⟩

/-- A stamp whose fraction of a leap second fits has a validated form just if its fields name an
    instant on the time line. The form keeps the offset and counts the epoch seconds of the stamp,
    where second 60 counts as the second before. -/
theorem exists_toZoned?_iff {s : Stamp} (hfits : s.time.LeapFits) :
    ((∃ z, s.toZoned? = some z) ↔ s.Representable) ∧
      ∀ z, s.toZoned? = some z →
        z.offsetSeconds = 60 * s.offsetMinutes.toInt ∧
          z.epochSeconds = s.epochSeconds - if s.time.second = 60 then 1 else 0 := by
  refine ⟨⟨?_, ?_⟩, ?_⟩
  · rintro ⟨z, hz⟩
    exact ((toZoned?_eq_some_iff_fields hfits).1 hz).1
  · intro h
    -- The instant itself is the form that `toZoned?` finds
    have hoffset := h.offset_le
    exact ⟨⟨_, s.offsetMinutes.toInt * 60, h.valid, by omega⟩,
      (toZoned?_eq_some_iff_fields hfits).2 ⟨h, rfl, rfl, rfl⟩⟩
  · intro z hz
    obtain ⟨-, hseconds, -, hoffset⟩ := (toZoned?_eq_some_iff_fields hfits).1 hz
    refine ⟨by omega, ?_⟩
    rw [ZonedDateTime.epochSeconds, hseconds, TimeOfDay.ahead]
    split <;> rfl

/-- The last leap second that the time line has room for, on a clock an hour behind UTC. -/
theorem exists_toZoned?_iff_lastLeapSecond :
    let s : Stamp := ⟨⟨262142, .december, 31⟩, ⟨22, 59, 60, 999999999⟩, -60⟩
    s.time.LeapFits ∧
      ∃ z, s.toZoned? = some z ∧ z.offsetSeconds = -3600 ∧ z.epochSeconds = s.epochSeconds - 1 := by
  intro s
  have hfits : s.time.LeapFits := by decide
  have hday : s.Representable := ⟨by decide, by decide, by decide, by decide, by decide⟩
  obtain ⟨z, hz⟩ := (exists_toZoned?_iff hfits).1.2 hday
  obtain ⟨hoffset, hseconds⟩ := (exists_toZoned?_iff hfits).2 z hz
  exact ⟨hfits, z, hz, hoffset, hseconds⟩

-- One nanosecond more than fits: the sum wraps around to 0, and the stamp passes as second 59
example :
    let s : Stamp := ⟨⟨2016, .december, 31⟩, ⟨23, 59, 60, 3294967296⟩, 0⟩
    s.toZoned?.isSome = true ∧ ¬ s.time.IsShown := by decide

end Stamp

end TimePattern
