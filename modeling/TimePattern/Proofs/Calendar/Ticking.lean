import TimePattern.Proofs.Calendar.CivilTime
import TimePattern.Stamp

/-!
# A clock that ticks through the calendar

`civilOfEpochSeconds?` computes the fields of a second. Here they are described without any
computation: the clock shows the start of 1970 at second 0, each second shows the next time of day
or, after the last one, the next day of the Gregorian calendar, and the clock shows nothing before
its first and after its last second. These laws leave no choice.

## Key results

- `Date.epochDay_next`: the day after a real date has the next number
- `civilOfEpochSeconds?_add_one`: the clock ticks
- `isGregorianClock_iff`: no other clock ticks through the same years
- `civilOfEpochSeconds?_inverse_epochSeconds`: the epoch seconds of stamps at UTC undo the clock
-/

namespace TimePattern

/-! ## The next day -/

/-- The month after this one, in a circle. -/
def Month.next (m : Month) : Month := ofOrdinal (m.ordinal + 1)

/-- The months before the next one are those before this one, and this one. -/
theorem Month.daysBefore_next (year : Int) {m : Month} (h : m ≠ .december) :
    m.next.daysBefore year = m.daysBefore year + m.length year := by
  cases m with
  | december => exact absurd rfl h
  | _ => rfl

/-- December is the rest of the year. -/
theorem Month.daysBefore_december (year : Int) :
    Month.december.daysBefore year + 31 = yearLength year := by
  unfold yearLength
  -- Only February depends on the year
  cases hleap : isLeapYear year <;> simp [daysBefore, all, ordinal, length, hleap]

theorem Month.one_le_length (year : Int) (m : Month) : 1 ≤ m.length year := by
  cases m <;> simp only [length, Nat.reduceLeDiff]
  split <;> decide

namespace Date

/-- The next day of the calendar. -/
def next (d : Date) : Date :=
  if d.day.toNat < d.month.length d.year.toInt then { d with day := d.day + 1 }
  else if d.month = .december then ⟨d.year + 1, .january, 1⟩
  else ⟨d.year, d.month.next, 1⟩

theorem isReal_first (year : Int32) (month : Month) : (⟨year, month, 1⟩ : Date).IsReal :=
  ⟨Nat.le_refl 1, month.one_le_length year.toInt⟩

/-- The number of a date by New Year, the months before and the day of the month. -/
theorem epochDay_eq_daysBefore (d : Date) :
    d.epochDay =
      dayNumber d.year.toInt .january 1 + d.month.daysBefore d.year.toInt + d.day.toNat - 1 := by
  rw [epochDay_eq, dayNumber_eq_daysBefore]

/-- The next day of a real date is real and has the next number. -/
theorem epochDay_next {d : Date} (h : d.IsReal) (hyear : d.year.toInt ≤ lastYear) :
    d.next.IsReal ∧ d.next.epochDay = d.epochDay + 1 := by
  obtain ⟨year, month, day⟩ := d
  obtain ⟨h1, hlen⟩ := h
  dsimp only at h1 hlen hyear
  have hmonth := month.length_le year.toInt
  by_cases hday : day.toNat < month.length year.toInt
  · -- Inside a month
    have hcase : next ⟨year, month, day⟩ = ⟨year, month, day + 1⟩ := if_pos hday
    -- The last day of a month is 31 at most, so that the day field does not wrap around
    have hnext : (day + 1).toNat = day.toNat + 1 := by
      rw [UInt8.toNat_add]
      simp
      omega
    rw [hcase]
    simp only [IsReal, epochDay, hnext]
    omega
  · have hlast : day.toNat = month.length year.toInt := Nat.le_antisymm hlen (Nat.not_lt.1 hday)
    by_cases hdec : month = .december
    · -- From December to January
      subst hdec
      have hcase : next ⟨year, .december, day⟩ = ⟨year + 1, .january, 1⟩ := by simp [next, hday]
      have hnext : (year + 1).toInt = year.toInt + 1 := by
        -- Nor does the year, which is one of the time line
        have hlo := year.le_toInt
        simp only [lastYear] at hyear
        rw [Int32.toInt_add]
        exact Int.bmod_eq_of_le (by simp; omega) (by simp; omega)
      have hdays := Month.daysBefore_december year.toInt
      have hdec : day.toNat = 31 := hlast
      have hone : (1 : UInt8).toNat = 1 := rfl
      rw [hcase, epochDay_eq_daysBefore ⟨year, .december, day⟩]
      simp only [epochDay, hnext, dayNumber_next_january, hdec, hone]
      exact ⟨isReal_first _ _, by omega⟩
    · -- From one month to the next
      have hcase : next ⟨year, month, day⟩ = ⟨year, month.next, 1⟩ := by
        simp [next, hday, hdec]
      have hdays := Month.daysBefore_next year.toInt hdec
      have hone : (1 : UInt8).toNat = 1 := rfl
      rw [hcase, epochDay_eq_daysBefore, epochDay_eq_daysBefore]
      simp only [hdays, hlast, hone]
      exact ⟨isReal_first _ _, by omega⟩

end Date

/-! ## The next second -/

/-- What a clock shows a second later, if it knows no leap seconds. -/
def tick : Date × TimeOfDay → Date × TimeOfDay
  | (d, t) =>
    if t.second.toNat < 59 then (d, { t with second := t.second + 1 })
    else if t.minute.toNat < 59 then (d, ⟨t.hour, t.minute + 1, 0, 0⟩)
    else if t.hour.toNat < 23 then (d, ⟨t.hour + 1, 0, 0, 0⟩)
    else (d.next, ⟨0, 0, 0, 0⟩)

/-- A field below 59 has room for one more. -/
theorem toNat_uint8_add_one {n : UInt8} (h : n.toNat < 59) : (n + 1).toNat = n.toNat + 1 := by
  rw [UInt8.toNat_add]
  simp
  omega

/-- The second after a whole time of a real date is such a time too, and has the next number. -/
theorem tick_spec {d : Date} {t : TimeOfDay} (hd : d.IsReal) (hyear : d.year.toInt ≤ Date.lastYear)
    (ht : t.IsWhole) :
    (tick (d, t)).1.IsReal ∧ (tick (d, t)).2.IsWhole ∧
      (tick (d, t)).1.epochDay * 86400 + (tick (d, t)).2.secondsOfDay =
        d.epochDay * 86400 + t.secondsOfDay + 1 := by
  obtain ⟨hour, minute, second, nanosecond⟩ := t
  obtain ⟨hhour, hminute, hsecond, hnano⟩ := ht
  dsimp only at hhour hminute hsecond hnano
  have hzero : (0 : UInt8).toNat = 0 := rfl
  by_cases hs : second.toNat < 59
  · -- Inside a minute
    have hcase : tick (d, ⟨hour, minute, second, nanosecond⟩) =
        (d, ⟨hour, minute, second + 1, nanosecond⟩) := if_pos hs
    have hnext := toNat_uint8_add_one hs
    rw [hcase]
    simp only [TimeOfDay.IsWhole, TimeOfDay.secondsOfDay, hnext]
    exact ⟨hd, ⟨hhour, hminute, by omega, hnano⟩, by omega⟩
  by_cases hm : minute.toNat < 59
  · -- From one minute to the next
    have hcase : tick (d, ⟨hour, minute, second, nanosecond⟩) = (d, ⟨hour, minute + 1, 0, 0⟩) := by
      simp [tick, hs, hm]
    have hnext := toNat_uint8_add_one hm
    rw [hcase]
    simp only [TimeOfDay.IsWhole, TimeOfDay.secondsOfDay, hnext, hzero]
    exact ⟨hd, ⟨hhour, by omega, by omega, trivial⟩, by omega⟩
  by_cases hh : hour.toNat < 23
  · -- From one hour to the next
    have hcase : tick (d, ⟨hour, minute, second, nanosecond⟩) = (d, ⟨hour + 1, 0, 0, 0⟩) := by
      simp [tick, hs, hm, hh]
    have hnext := toNat_uint8_add_one (n := hour) (by omega)
    rw [hcase]
    simp only [TimeOfDay.IsWhole, TimeOfDay.secondsOfDay, hnext, hzero]
    exact ⟨hd, ⟨by omega, by omega, by omega, trivial⟩, by omega⟩
  · -- At midnight the whole day is over
    have hcase : tick (d, ⟨hour, minute, second, nanosecond⟩) = (d.next, ⟨0, 0, 0, 0⟩) := by
      simp [tick, hs, hm, hh]
    obtain ⟨hreal, hday⟩ := d.epochDay_next hd hyear
    rw [hcase]
    simp only [TimeOfDay.IsWhole, TimeOfDay.secondsOfDay, hday, hzero]
    exact ⟨hreal, ⟨by omega, by omega, by omega, trivial⟩, by omega⟩

/-! ## Clocks -/

/-- What the clock of the time line shows at its first second. -/
def firstFields : Date × TimeOfDay := (⟨-262143, .january, 1⟩, ⟨0, 0, 0, 0⟩)

/-- What it shows at its last second. -/
def lastFields : Date × TimeOfDay := (⟨262142, .december, 31⟩, ⟨23, 59, 59, 0⟩)

/-- What it shows at second 0. -/
def epochFields : Date × TimeOfDay := (⟨1970, .january, 1⟩, ⟨0, 0, 0, 0⟩)

/-- What is shown at the first second of the time line. -/
theorem civilOfEpochSeconds?_firstSecond :
    civilOfEpochSeconds? ClockReading.firstSecond = some firstFields := by decide

/-- What is shown at the last second of the time line. -/
theorem civilOfEpochSeconds?_lastSecond :
    civilOfEpochSeconds? ClockReading.lastSecond = some lastFields := by decide

/-- Second 0 is the start of 1970. -/
theorem civilOfEpochSeconds?_zero : civilOfEpochSeconds? 0 = some epochFields := by decide

/-- Nothing is shown off the time line. -/
theorem onLine_of_civilOfEpochSeconds? {n : Int} {x : Date × TimeOfDay}
    (h : civilOfEpochSeconds? n = some x) : ClockReading.OnLine n := by
  rw [civilOfEpochSeconds?_eq] at h
  split at h
  · assumption
  · cases h

/-- Something is shown just on the time line. -/
theorem exists_civilOfEpochSeconds?_iff {n : Int} :
    (∃ x, civilOfEpochSeconds? n = some x) ↔ ClockReading.OnLine n := by
  constructor
  · intro h
    obtain ⟨x, hx⟩ := h
    exact onLine_of_civilOfEpochSeconds? hx
  · intro h
    rw [civilOfEpochSeconds?_eq, if_pos h]
    exact ⟨_, rfl⟩

/-- No two seconds show the same. -/
theorem civilOfEpochSeconds?_inj {m n : Int} {x : Date × TimeOfDay}
    (hm : civilOfEpochSeconds? m = some x) (hn : civilOfEpochSeconds? n = some x) : m = n := by
  obtain ⟨-, -, -, -, rfl⟩ := civilOfEpochSeconds?_eq_some_iff.1 hm
  obtain ⟨-, -, -, -, rfl⟩ := civilOfEpochSeconds?_eq_some_iff.1 hn
  rfl

/-- The clock ticks. -/
theorem civilOfEpochSeconds?_add_one {n : Int} {x : Date × TimeOfDay}
    (h : civilOfEpochSeconds? n = some x) (hn : n < ClockReading.lastSecond) :
    civilOfEpochSeconds? (n + 1) = some (tick x) := by
  obtain ⟨d, t⟩ := x
  obtain ⟨hlo, -⟩ := onLine_of_civilOfEpochSeconds? h
  obtain ⟨hreal, hwhole, -, hyear, hnumber⟩ := civilOfEpochSeconds?_eq_some_iff.1 h
  obtain ⟨hreal', hwhole', hnumber'⟩ := tick_spec hreal hyear hwhole
  rw [← hnumber] at hnumber'
  -- The next second is on the line, and so its year is one of the line
  have hline : ClockReading.OnLine (n + 1) := ⟨by omega, by omega⟩
  obtain ⟨h0, hlt⟩ := TimeOfDay.secondsOfDay_bounds hwhole'
  rw [← hnumber'] at hline
  obtain ⟨hyear0, hyear'⟩ := (ClockReading.onLine_iff hreal' h0 hlt).1 hline
  exact civilOfEpochSeconds?_eq_some_iff.2 ⟨hreal', hwhole', hyear0, hyear', hnumber'.symm⟩

/-- A clock that shows the proleptic Gregorian calendar at UTC, second by second, in the years of
    the time line: it shows the start of 1970 at second 0, begins with the first second of the
    first year, ticks, and ends with the last second of the last year. -/
structure IsGregorianClock (clock : Int → Option (Date × TimeOfDay)) : Prop where
  epoch : clock 0 = some epochFields
  begins : ∃ first, clock first = some firstFields ∧ ∀ n < first, clock n = none
  ticks : ∀ n x, clock n = some x → x ≠ lastFields → clock (n + 1) = some (tick x)
  ends : ∀ last, clock last = some lastFields → ∀ n > last, clock n = none

/-- The fields of epoch seconds are shown by a clock that ticks. -/
theorem isGregorianClock_civilOfEpochSeconds? : IsGregorianClock civilOfEpochSeconds? where
  epoch := civilOfEpochSeconds?_zero
  begins := by
    refine ⟨ClockReading.firstSecond, civilOfEpochSeconds?_firstSecond, fun n hn => ?_⟩
    -- Before the first second lies nothing of the line
    rw [civilOfEpochSeconds?_eq, if_neg fun hline => Int.not_lt.2 hline.1 hn]
  ticks := by
    intro n x h hx
    obtain ⟨-, hle⟩ := onLine_of_civilOfEpochSeconds? h
    -- Fields other than the last ones are shown at another second than the last
    have hne : n ≠ ClockReading.lastSecond := by
      intro hlast
      rw [hlast, civilOfEpochSeconds?_lastSecond] at h
      exact hx (Option.some.inj h).symm
    exact civilOfEpochSeconds?_add_one h (by omega)
  ends := by
    intro last h n hn
    have hlast := civilOfEpochSeconds?_inj h civilOfEpochSeconds?_lastSecond
    rw [civilOfEpochSeconds?_eq, if_neg fun hline => Int.not_lt.2 hline.2 (hlast ▸ hn)]

namespace IsGregorianClock

variable {clock : Int → Option (Date × TimeOfDay)} {first : Int}

/-- Counted from their first seconds, all clocks show the same up to the last second. -/
theorem eq_civil_of_le (hclock : IsGregorianClock clock) (hfirst : clock first = some firstFields)
    (k : Nat) (hk : ClockReading.firstSecond + k ≤ ClockReading.lastSecond) :
    clock (first + k) = civilOfEpochSeconds? (ClockReading.firstSecond + k) := by
  -- One tick after the other from the first second on, on both clocks
  induction k with
  | zero =>
    simp only [Int.natCast_zero, Int.add_zero]
    rw [hfirst, civilOfEpochSeconds?_firstSecond]
  | succ k ih =>
    have hk' : ClockReading.firstSecond + k < ClockReading.lastSecond := by omega
    have hprev := ih (by omega)
    have hline : ClockReading.OnLine (ClockReading.firstSecond + k) := ⟨by omega, by omega⟩
    obtain ⟨x, hx⟩ := exists_civilOfEpochSeconds?_iff.2 hline
    -- The last fields are not shown before the last second
    have hne : x ≠ lastFields := by
      intro hlast
      rw [hlast] at hx
      have hsame := civilOfEpochSeconds?_inj hx civilOfEpochSeconds?_lastSecond
      omega
    rw [hx] at hprev
    rw [Int.natCast_add, Int.natCast_one, ← Int.add_assoc, ← Int.add_assoc,
      hclock.ticks _ x hprev hne, civilOfEpochSeconds?_add_one hx hk']

/-- Counted from their first seconds, all clocks show the same. -/
theorem eq_civil_shifted (hclock : IsGregorianClock clock)
    (hfirst : clock first = some firstFields) (hbefore : ∀ n < first, clock n = none) (j : Int) :
    clock (first + j) = civilOfEpochSeconds? (ClockReading.firstSecond + j) := by
  by_cases hj : j < 0
  · -- Before the first second
    have hoff : ¬ ClockReading.OnLine (ClockReading.firstSecond + j) :=
      fun hline => absurd hline.1 (by omega)
    rw [hbefore _ (by omega), civilOfEpochSeconds?_eq, if_neg hoff]
  obtain ⟨k, rfl⟩ := Int.eq_ofNat_of_zero_le (Int.not_lt.1 hj)
  by_cases hk : ClockReading.firstSecond + k ≤ ClockReading.lastSecond
  · -- On the line
    exact hclock.eq_civil_of_le hfirst k hk
  · -- Behind the second that shows the last fields
    have hoff : ¬ ClockReading.OnLine (ClockReading.firstSecond + k) := fun hline => hk hline.2
    obtain ⟨last, hlast⟩ := Int.eq_ofNat_of_zero_le
      (by decide : 0 ≤ ClockReading.lastSecond - ClockReading.firstSecond)
    have hsecond : ClockReading.firstSecond + last = ClockReading.lastSecond := by omega
    have hshown := hclock.eq_civil_of_le hfirst last (by omega)
    rw [hsecond, civilOfEpochSeconds?_lastSecond] at hshown
    rw [civilOfEpochSeconds?_eq, if_neg hoff]
    exact hclock.ends _ hshown _ (by omega)

end IsGregorianClock

/-- No other clock shows the calendar in these years. -/
theorem isGregorianClock_iff {clock : Int → Option (Date × TimeOfDay)} :
    IsGregorianClock clock ↔ clock = civilOfEpochSeconds? := by
  constructor
  · intro hclock
    obtain ⟨first, hfirst, hbefore⟩ := hclock.begins
    have hshift := hclock.eq_civil_shifted hfirst hbefore
    -- The start of 1970 tells how far the clocks are apart
    have hzero := hshift (-first)
    rw [Int.add_right_neg, hclock.epoch] at hzero
    have heq := civilOfEpochSeconds?_inj hzero.symm civilOfEpochSeconds?_zero
    funext n
    have hn := hshift (n - first)
    rw [show first + (n - first) = n by omega,
      show ClockReading.firstSecond + (n - first) = n by omega] at hn
    exact hn
  · rintro rfl
    exact isGregorianClock_civilOfEpochSeconds?

/-! ## Epoch seconds -/

/-- At UTC the offset takes nothing off. -/
theorem Stamp.epochSeconds_utc (d : Date) (t : TimeOfDay) :
    (⟨d, t, 0⟩ : Stamp).epochSeconds = d.epochDay * 86400 + t.secondsOfDay := by
  simp [epochSeconds]

/-- `civilOfEpochSeconds?` is the clock of the proleptic Gregorian calendar at UTC. It shows
    something from the first second of the year -262143 to the last of 262142, and the epoch seconds
    of stamps at UTC undo it: it shows real dates with whole times of day, each such pair of these
    years at one second, which is that of the stamp. -/
theorem civilOfEpochSeconds?_inverse_epochSeconds :
    (∀ clock, IsGregorianClock clock ↔ clock = civilOfEpochSeconds?) ∧
    (∀ n, (∃ d t, civilOfEpochSeconds? n = some (d, t)) ↔
      (⟨⟨-262143, .january, 1⟩, ⟨0, 0, 0, 0⟩, 0⟩ : Stamp).epochSeconds ≤ n ∧
        n ≤ (⟨⟨262142, .december, 31⟩, ⟨23, 59, 59, 0⟩, 0⟩ : Stamp).epochSeconds) ∧
    ∀ n d t, civilOfEpochSeconds? n = some (d, t) ↔
      d.IsReal ∧ t.IsWhole ∧ -262143 ≤ d.year.toInt ∧ d.year.toInt ≤ 262142 ∧
        (⟨d, t, 0⟩ : Stamp).epochSeconds = n := by
  refine ⟨fun clock => isGregorianClock_iff, fun n => ?_, fun n d t => ?_⟩
  · -- The two ends of the line are the epoch seconds of their stamps
    have hfirst : (⟨⟨-262143, .january, 1⟩, ⟨0, 0, 0, 0⟩, 0⟩ : Stamp).epochSeconds =
        ClockReading.firstSecond := by decide
    have hlast : (⟨⟨262142, .december, 31⟩, ⟨23, 59, 59, 0⟩, 0⟩ : Stamp).epochSeconds =
        ClockReading.lastSecond := by decide
    rw [hfirst, hlast, ← Prod.exists (p := fun x => civilOfEpochSeconds? n = some x),
      exists_civilOfEpochSeconds?_iff]
    rfl
  · rw [civilOfEpochSeconds?_eq_some_iff, Stamp.epochSeconds_utc, eq_comm (a := n)]
    rfl

end TimePattern
