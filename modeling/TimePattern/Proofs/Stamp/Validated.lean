import TimePattern.Proofs.Stamp.Snapshot

/-!
# Stamps with a validated form

A stamp that has a validated form names the instant at which the clock on the wall shows its
fields. A leap second is shown as second 60; written as second 59 with a fraction of a second or
more it is validated too, and then the clock does not show the fields as they were written. The
nanoseconds of second 60 are counted from second 59 in 32 bits, which is a number as long as
`TimeOfDay.LeapFits` holds.

## Key results

- `Stamp.toZoned?_eq_some_iff`: the validated form is the one whose wall clock the stamp describes
- `Stamp.wall?_eq_some_iff`: the readings that a stamp describes
- `ZonedDateTime.toZoned?_stamp_iff`: an instant is found again if its offset is in whole minutes
- `Stamp.stamp_of_toZoned?`: what a validated stamp comes back as
-/

namespace TimePattern

/-! ## Leap seconds -/

/-- Taking a second off the nanoseconds of a leap second does not wrap around. -/
theorem toNat_sub_second {n : UInt32} (h : 1000000000 ≤ n.toNat) :
    (n - 1000000000).toNat = n.toNat - 1000000000 :=
  UInt32.toNat_sub_of_le _ _ (UInt32.le_iff_toNat_le.2 h)

/-- The second and the nanoseconds that a clock counts for a time, as numbers. -/
theorem TimeOfDay.clock_cases {t : TimeOfDay} (hfits : t.LeapFits) :
    t.second.toNat = 60 ∧ t.clockSecond.toNat = 59 ∧
        t.clockNanosecond.toNat = 1000000000 + t.nanosecond.toNat ∨
      t.second.toNat ≠ 60 ∧ t.clockSecond.toNat = t.second.toNat ∧
        t.clockNanosecond.toNat = t.nanosecond.toNat := by
  unfold clockSecond clockNanosecond
  by_cases h : t.second = 60
  · have hle := hfits h
    -- The sum stays below the numbers that 32 bits cannot hold
    have hsum : (1000000000 + t.nanosecond).toNat = 1000000000 + t.nanosecond.toNat := by
      rw [UInt32.toNat_add]
      exact Nat.mod_eq_of_lt (show 1000000000 + t.nanosecond.toNat < 4294967296 by omega)
    rw [if_pos h, if_pos h, hsum]
    exact .inl ⟨congrArg UInt8.toNat h, rfl, rfl⟩
  · have hne : t.second.toNat ≠ 60 := fun heq => h (UInt8.toNat_inj.1 heq)
    rw [if_neg h, if_neg h]
    exact .inr ⟨hne, rfl, rfl⟩

/-- The time as a clock shows it: the leap second after second 59 is second 60. -/
def TimeOfDay.clockForm (t : TimeOfDay) : TimeOfDay :=
  if t.second = 59 ∧ 1000000000 ≤ t.nanosecond.toNat then
    { t with second := 60, nanosecond := t.nanosecond - 1000000000 }
  else t

/-- Only a leap second that is written as second 59 is shown otherwise. -/
theorem TimeOfDay.clockForm_eq_self_iff (t : TimeOfDay) :
    t.clockForm = t ↔ ¬ (t.second = 59 ∧ 1000000000 ≤ t.nanosecond.toNat) := by
  unfold clockForm
  split
  · next h =>
    simp only [h, and_self, not_true_eq_false, iff_false]
    intro heq
    -- The clock form of such a time has another second
    have hsecond : 60 = t.second := congrArg TimeOfDay.second heq
    rw [h.1] at hsecond
    exact absurd hsecond (by decide)
  · next h => simp [h]

namespace Stamp

@[inherit_doc TimeOfDay.clockForm]
def clockForm (s : Stamp) : Stamp := { s with time := s.time.clockForm }

/-- The same for stamps: date and offset are shown as they are. -/
theorem clockForm_eq_self_iff (s : Stamp) :
    s.clockForm = s ↔ ¬ (s.time.second = 59 ∧ 1000000000 ≤ s.time.nanosecond.toNat) := by
  rw [← TimeOfDay.clockForm_eq_self_iff]
  obtain ⟨date, time, offset⟩ := s
  simp [clockForm]

/-! ## The reading that a stamp describes -/

/-- Both ways to write a leap second describe the same reading. -/
theorem wall?_clockForm (s : Stamp) : s.clockForm.wall? = s.wall? := by
  obtain ⟨date, ⟨hour, minute, second, nanosecond⟩, offset⟩ := s
  simp only [wall?, clockForm, TimeOfDay.clockForm]
  split
  · next h =>
    obtain ⟨rfl, -⟩ := h
    -- The second that the clock form takes off is put back again, also in 32 bits
    have hback : 1000000000 + (nanosecond - 1000000000) = nanosecond := by
      rw [UInt32.add_comm, UInt32.sub_add_cancel]
    simp [TimeOfDay.clockSecond, TimeOfDay.clockNanosecond, hback]
  · rfl

/-- A fraction of less than a second is that of the reading, or of its leap second. The reading that
    the stamp describes then shows its fields. -/
theorem wall?_eq_some_iff_of_lt {s : Stamp} (hnano : s.time.nanosecond.toNat < 1000000000)
    {r : ClockReading} :
    s.wall? = some r ↔ r.Valid ∧ s.date = r.toDate ∧ s.time = r.toTime := by
  have hclock := TimeOfDay.clock_cases (t := s.time) fun _ => by omega
  have hzero := r.leap_eq_zero_iff
  have hone := r.leap_le_one
  rw [wall?, ClockReading.ofFields?_eq_some_iff]
  constructor
  · intro h
    obtain ⟨hreal, hhour, hminute, hlt, hvalid, rfl⟩ := h
    have hlast := hvalid.2
    -- The time is less than a day, so that day and time are quotient and remainder
    rw [ClockReading.eq_toDate_iff hvalid.1, ClockReading.eq_toTime_iff hvalid.nanoseconds_lt]
    dsimp only at hzero hlast ⊢
    refine ⟨hvalid, ⟨hreal, by omega⟩, by omega, by omega, by omega, by omega⟩
  · intro h
    obtain ⟨hvalid, hdate, htime⟩ := h
    rw [ClockReading.eq_toDate_iff hvalid.1] at hdate
    rw [ClockReading.eq_toTime_iff hvalid.nanoseconds_lt] at htime
    -- The second field is 60 just in a leap second, which only second 59 leaves room for
    obtain ⟨hreal, hday⟩ := hdate
    obtain ⟨hhour, hminute, hsec, hfraction⟩ := htime
    have hlast := hvalid.2
    obtain ⟨seconds, nanoseconds⟩ := r
    dsimp only at hhour hminute hsec hfraction hlast hzero hday
    refine ⟨hreal, by omega, by omega, by omega, hvalid, ?_⟩
    rw [ClockReading.mk.injEq]
    omega

/-- A reading leaves a leap second less than a second, and allows none elsewhere. -/
theorem nanosecond_clockForm_lt {s : Stamp} (hfits : s.time.LeapFits) {r : ClockReading}
    (h : s.wall? = some r) : s.clockForm.time.nanosecond.toNat < 1000000000 := by
  have hclock := TimeOfDay.clock_cases hfits
  rw [wall?, ClockReading.ofFields?_eq_some_iff] at h
  obtain ⟨-, -, -, hlt, hvalid, rfl⟩ := h
  have hlast := hvalid.2
  dsimp only at hlast
  simp only [clockForm, TimeOfDay.clockForm]
  split
  · next hleap =>
    have hsub := toNat_sub_second hleap.2
    dsimp only
    omega
  · next hleap =>
    -- More than that fits behind second 59 only, where `clockForm` has taken it off
    have hne : s.time.second.toNat = 59 → s.time.nanosecond.toNat < 1000000000 := by
      intro h59
      exact Nat.lt_of_not_le fun hle => hleap ⟨UInt8.toNat_inj.1 h59, hle⟩
    omega

/-- A stamp describes the valid reading that shows its fields, where a leap second is shown as
    second 60 however it was written. -/
theorem wall?_eq_some_iff {s : Stamp} (hfits : s.time.LeapFits) {r : ClockReading} :
    s.wall? = some r ↔
      r.Valid ∧ s.clockForm.date = r.toDate ∧ s.clockForm.time = r.toTime := by
  constructor
  · intro h
    -- The clock form describes the same reading, and its fraction is less than a second
    have hnano := nanosecond_clockForm_lt hfits h
    rw [← s.wall?_clockForm] at h
    exact (wall?_eq_some_iff_of_lt hnano).1 h
  · intro h
    obtain ⟨-, -, -, hfraction⟩ := (ClockReading.eq_toTime_iff h.1.nanoseconds_lt).1 h.2.2
    have hzero := r.leap_eq_zero_iff
    have hlt := h.1.nanoseconds_lt
    rw [← s.wall?_clockForm]
    exact (wall?_eq_some_iff_of_lt (by omega)).2 h

/-! ## The instant that a stamp names -/

/-- The validated form of a stamp is the instant whose wall clock, at the offset of the stamp,
    shows the reading that the stamp describes. -/
theorem toZoned?_eq_some_iff {s : Stamp} {z : ZonedDateTime} :
    s.toZoned? = some z ↔
      s.wall? = some z.wall ∧ z.offsetSeconds = s.offsetMinutes.toInt * 60 := by
  simp only [toZoned?, Option.bind_eq_some_iff, ClockReading.shift?, ZonedDateTime.ofReading?]
  constructor
  · intro h
    obtain ⟨wall, hwall, utc, hutc, hz⟩ := h
    -- The instant lies on the line, and so does the clock on the wall
    split at hutc
    · cases hutc
      split at hz
      · cases hz
        simp only [ZonedDateTime.wall, Int.neg_add_cancel_right, hwall, and_self]
      · cases hz
    · cases hutc
  · intro h
    -- The instant is already checked, so that going back to UTC cannot fail
    obtain ⟨hwall, hoffset⟩ := h
    obtain ⟨utc, offset, hvalid, hlt⟩ := z
    dsimp only at hoffset
    subst hoffset
    refine ⟨_, hwall, utc, ?_, ?_⟩
    · simp only [ZonedDateTime.wall, Int.add_neg_cancel_right, hvalid.1, if_true]
    · exact dif_pos ⟨hvalid, hlt⟩

end Stamp

/-! ## There and back -/

/-- An offset of whole minutes takes the second in which a leap second falls to the same second of
    another minute. -/
theorem ZonedDateTime.valid_wall {z : ZonedDateTime} (hline : ClockReading.OnLine z.wall.seconds)
    (hminutes : 60 ∣ z.offsetSeconds) : z.wall.Valid := by
  obtain ⟨-, hlast⟩ := z.valid
  have hsecond : z.wall.seconds % 60 = z.utc.seconds % 60 := by
    simp only [wall]
    omega
  refine ⟨hline, ?_⟩
  rw [hsecond]
  exact hlast

/-- What the clock on the wall shows. -/
def ZonedDateTime.shown (z : ZonedDateTime) : Stamp where
  date := z.wall.toDate
  time := z.wall.toTime
  offsetMinutes := z.offsetMinutes

/-- An instant has a stamp if the clock on the wall is on the line, and the stamp is what that clock
    shows. -/
theorem ZonedDateTime.exists_moment_iff {z : ZonedDateTime} {s : Stamp} :
    (∃ m, z.moment = .ok m ∧ m.stamp = s) ↔
      ClockReading.OnLine z.wall.seconds ∧ s = z.shown := by
  constructor
  · intro h
    obtain ⟨m, hm, rfl⟩ := h
    obtain ⟨hline, rfl⟩ := moment_eq_ok_iff.1 hm
    exact ⟨hline, rfl⟩
  · rintro ⟨hline, rfl⟩
    exact ⟨_, moment_eq_ok_iff.2 ⟨hline, rfl⟩, rfl⟩

/-- What the clock shows describes its reading, if that is valid at all. -/
theorem ZonedDateTime.wall?_shown_iff (z : ZonedDateTime) :
    z.shown.wall? = some z.wall ↔ z.wall.Valid := by
  obtain ⟨-, -, -, hfraction⟩ := ClockReading.toTime_fields (r := z.wall) z.valid.nanoseconds_lt
  have hzero := z.wall.leap_eq_zero_iff
  have hlt : z.wall.nanoseconds < 2000000000 := z.valid.nanoseconds_lt
  rw [Stamp.wall?_eq_some_iff_of_lt (by simp only [shown]; omega)]
  exact ⟨fun h => h.1, fun h => ⟨h, rfl, rfl⟩⟩

/-- An instant whose clock on the wall is on the time line is found again from what the clock shows
    just if the offset is in whole minutes. -/
theorem ZonedDateTime.toZoned?_stamp_iff {z : ZonedDateTime}
    (hline : ClockReading.OnLine (z.epochSeconds + z.offsetSeconds)) :
    ∃ m, z.moment = .ok m ∧ (m.stamp.toZoned? = some z ↔ 60 ∣ z.offsetSeconds) := by
  obtain ⟨m, hm, hstamp⟩ := exists_moment_iff.2 ⟨hline, rfl⟩
  refine ⟨m, hm, ?_⟩
  have hoffset : z.shown.offsetMinutes.toInt = z.offsetSeconds.tdiv 60 := z.toInt_offsetMinutes
  rw [hstamp, Stamp.toZoned?_eq_some_iff, wall?_shown_iff, hoffset]
  constructor
  · -- The offset of a stamp is in whole minutes, so no other is found again
    intro h
    exact ⟨_, h.2.trans (Int.mul_comm _ _)⟩
  · intro h
    exact ⟨valid_wall hline h, (Int.tdiv_mul_cancel h).symm⟩

/-- The leap second before 2017, seen an hour and a half behind UTC. -/
theorem ZonedDateTime.toZoned?_stamp_iff_leapSecond :
    let z : ZonedDateTime := ⟨⟨1483228799, 1999999999⟩, -5400, by decide, by decide⟩
    ClockReading.OnLine (z.epochSeconds + z.offsetSeconds) ∧
      ∃ m, z.moment = .ok m ∧ (m.stamp.toZoned? = some z ↔ 60 ∣ z.offsetSeconds) :=
  ⟨by decide, ZonedDateTime.toZoned?_stamp_iff (by decide)⟩

/-- The validated form of a stamp shows the stamp again, up to the way in which a leap second is
    written, if the fraction of second 60 fits behind second 59. -/
theorem Stamp.stamp_of_toZoned? {s : Stamp} (hfits : s.time.LeapFits) {z : ZonedDateTime}
    (h : s.toZoned? = some z) :
    ∃ m, z.moment = .ok m ∧ m.stamp = s.clockForm ∧
      (m.stamp = s ↔ ¬ (s.time.second = 59 ∧ 1000000000 ≤ s.time.nanosecond.toNat)) := by
  obtain ⟨hwall, hoffset⟩ := toZoned?_eq_some_iff.1 h
  obtain ⟨hvalid, hdate, htime⟩ := (wall?_eq_some_iff hfits).1 hwall
  -- The offset was in whole minutes, so that none of it is lost
  have hminutes : z.offsetMinutes = s.offsetMinutes := by
    rw [← Int32.toInt_inj, z.toInt_offsetMinutes, hoffset]
    exact Int.mul_tdiv_cancel _ (by decide)
  have hshown : s.clockForm = z.shown := by
    rw [ZonedDateTime.shown, ← hdate, ← htime, hminutes]
    rfl
  obtain ⟨m, hm, hstamp⟩ := ZonedDateTime.exists_moment_iff.2 ⟨hvalid.1, hshown⟩
  refine ⟨m, hm, hstamp, ?_⟩
  rw [hstamp, clockForm_eq_self_iff]

/-- A leap second at the end of a local day, which is written as a clock shows it. -/
theorem Stamp.stamp_of_toZoned?_leapSecond :
    let s : Stamp := ⟨⟨2016, .december, 31⟩, ⟨23, 59, 60, 500000000⟩, 345⟩
    let z : ZonedDateTime := ⟨⟨1483208099, 1500000000⟩, 20700, by decide, by decide⟩
    s.time.LeapFits ∧ s.toZoned? = some z ∧ ∃ m, z.moment = .ok m ∧ m.stamp = s.clockForm ∧
      (m.stamp = s ↔ ¬ (s.time.second = 59 ∧ 1000000000 ≤ s.time.nanosecond.toNat)) :=
  have hfits : TimeOfDay.LeapFits ⟨23, 59, 60, 500000000⟩ := by decide
  have hz : Stamp.toZoned? ⟨⟨2016, .december, 31⟩, ⟨23, 59, 60, 500000000⟩, 345⟩ =
      some ⟨⟨1483208099, 1500000000⟩, 20700, by decide, by decide⟩ :=
    Stamp.toZoned?_eq_some_iff.2
      ⟨(Stamp.wall?_eq_some_iff hfits).2 ⟨by decide, by decide, by decide⟩, by decide⟩
  ⟨hfits, hz, Stamp.stamp_of_toZoned? hfits hz⟩

/-- Written as second 59 with the fraction of a leap second, a stamp passes as validated and comes
    back with other fields. -/
theorem Stamp.toZoned?_rewrites_leapSecond :
    let s : Stamp := ⟨⟨2024, .january, 1⟩, ⟨0, 0, 59, 1500000000⟩, 0⟩
    ∃ z m, s.toZoned? = some z ∧ z.moment = .ok m ∧
      m.stamp = ⟨⟨2024, .january, 1⟩, ⟨0, 0, 60, 500000000⟩, 0⟩ ∧ m.stamp ≠ s :=
  ⟨⟨⟨1704067259, 1500000000⟩, 0, by decide, by decide⟩, _, rfl, rfl, by decide, by decide⟩

end TimePattern
