import TimePattern.Calendar.ClockReading
import TimePattern.Proofs.Calendar.DayNumber

/-!
# Civil fields of clock readings

What the date and the time of a reading say about its seconds and its fraction, and which fields
a reading can be had from. In a leap second the second field is one ahead of the time line. Epoch
seconds have the fields of a reading without a fraction: those of a real date and a whole time of
day, and each such pair on the time line is found by its own number of seconds.

## Key results

- `Date.ofEpochDay_epochDay`: a real date is found by its day number
- `ClockReading.epochDay_toDate` / `ClockReading.toTime_fields`: the fields of a reading, as numbers
- `ClockReading.epochDay_add_secondsOfDay`: the fields count the seconds of the reading, and the
  leap second
- `ClockReading.ofFields?_eq_some_iff`: the fields that have a reading
- `civilOfEpochSeconds?_eq_some_iff`: what is found for epoch seconds, and when
-/

namespace TimePattern

/-! ## Dates -/

/-- No month has more than 31 days. -/
theorem Month.length_le (year : Int) (m : Month) : m.length year ≤ 31 := by
  cases m <;> simp only [length, Nat.reduceLeDiff]
  -- February is left over
  split <;> decide

namespace Date

/-- The number of a date is that of its day, whether or not the month has it. -/
theorem epochDay_eq (d : Date) : d.epochDay = dayNumber d.year.toInt d.month d.day.toNat := by
  -- The days of a month are counted one by one, so that day 0 and days past the end go along
  rw [epochDay, dayNumber_eq_daysBefore, dayNumber_eq_daysBefore _ _ (d.day.toNat : Int)]
  omega

/-- The number of a date, by the year that begins in March. -/
theorem epochDay_eq_marchDate (d : Date) :
    d.epochDay = (MarchDate.ofCivil d.year.toInt d.month d.day.toNat).dayNumber :=
  d.epochDay_eq

/-- A real date is found by its day number. -/
theorem ofEpochDay_epochDay {d : Date} (h : d.IsReal) : ofEpochDay d.epochDay = d := by
  obtain ⟨h1, hlen⟩ := h
  have hvalid : (MarchDate.ofCivil d.year.toInt d.month d.day.toNat).Valid :=
    MarchDate.valid_ofCivil (by omega) (by omega)
  rw [epochDay_eq_marchDate, ofEpochDay, MarchDate.ofDayNumber_dayNumber hvalid]
  simp

/-- A day of the years that the time line covers is found with its own number. -/
theorem ofEpochDay_spec {n : Int} (hlo : dayNumber firstYear .january 1 ≤ n)
    (hhi : n < dayNumber (lastYear + 1) .january 1) :
    (ofEpochDay n).IsReal ∧ (ofEpochDay n).epochDay = n := by
  have hvalid := MarchDate.valid_ofDayNumber n
  have hnumber := MarchDate.dayNumber_ofDayNumber n
  generalize hm : MarchDate.ofDayNumber n = m at hvalid hnumber
  -- The day that is found exists, and going back gives its number
  have hcivil : dayNumber m.civilYear m.civilMonth m.civilDay = n := by
    rw [dayNumber, MarchDate.ofCivil_civil hvalid, hnumber]
  obtain ⟨-, -, h1, hlen⟩ := hvalid
  -- The year fits its field, since it is one of the time line
  have hfirst := dayNumber_january_le_iff h1 hlen firstYear
  have hlast := dayNumber_january_le_iff h1 hlen (lastYear + 1)
  rw [hcivil] at hfirst hlast
  replace hfirst := hfirst.1 hlo
  replace hlast := mt hlast.2 (by omega)
  simp only [firstYear, lastYear] at hfirst hlast
  have hyear : (Int32.ofInt m.civilYear).toInt = m.civilYear :=
    Int32.toInt_ofInt_of_le (by omega) (by omega)
  have hshort := m.civilMonth.length_le m.civilYear
  -- The day of the month fits its field as well
  have hday : ((UInt8.ofNat m.civilDay.toNat).toNat : Int) = m.civilDay := by
    rw [UInt8.toNat_ofNat']
    omega
  refine ⟨?_, ?_⟩
  · simp only [IsReal, ofEpochDay, hm, hyear]
    omega
  · rw [epochDay_eq_marchDate]
    simp only [ofEpochDay, hm, hyear, hday]
    exact hcivil

/-- A real date lies on or after the first day of a year if its own year does. -/
theorem january_le_epochDay_iff {d : Date} (h : d.IsReal) (y : Int) :
    dayNumber y .january 1 ≤ d.epochDay ↔ y ≤ d.year.toInt := by
  obtain ⟨h1, hlen⟩ := h
  rw [epochDay_eq]
  exact dayNumber_january_le_iff (by omega) (by omega) y

end Date

/-! ## The time line -/

namespace ClockReading

/-- The days of the time line have the numbers that dates have. -/
theorem dayOnLine_eq (year : Int) (month : Month) (day : Nat) :
    dayOnLine year month day = dayNumber year month day := by
  rw [dayOnLine, commonEraDay_eq]
  omega

/-- The time line begins with the first New Year of its years. -/
theorem firstSecond_eq : firstSecond = dayNumber Date.firstYear .january 1 * 86400 := by
  rw [firstSecond, dayOnLine_eq]
  rfl

/-- The time line ends with the last second of its years. -/
theorem lastSecond_eq :
    lastSecond = dayNumber Date.lastYear .december 31 * 86400 + 86399 := by
  rw [lastSecond, dayOnLine_eq]
  rfl

/-- The last day of the time line is the one before a New Year. -/
theorem dayNumber_last :
    dayNumber Date.lastYear .december 31 = dayNumber (Date.lastYear + 1) .january 1 - 1 := by
  decide

/-- The seconds of a real date and a time of day are on the time line if the year is. -/
theorem onLine_iff {d : Date} (h : d.IsReal) {seconds : Int} (h0 : 0 ≤ seconds)
    (hlt : seconds < 86400) :
    OnLine (d.epochDay * 86400 + seconds) ↔
      Date.firstYear ≤ d.year.toInt ∧ d.year.toInt ≤ Date.lastYear := by
  have hfirst := Date.january_le_epochDay_iff h Date.firstYear
  have hlast := Date.january_le_epochDay_iff h (Date.lastYear + 1)
  -- The line runs from the first New Year to the one after the last year
  rw [OnLine, firstSecond_eq, lastSecond_eq, dayNumber_last]
  omega

/-- On the time line the date is a real one, with the number of the day. -/
theorem epochDay_toDate {r : ClockReading} (h : OnLine r.seconds) :
    r.toDate.IsReal ∧ r.toDate.epochDay = r.seconds / 86400 := by
  obtain ⟨hlo, hhi⟩ := h
  rw [firstSecond_eq] at hlo
  rw [lastSecond_eq, dayNumber_last] at hhi
  exact Date.ofEpochDay_spec (by omega) (by omega)

/-- No other real date has this number. -/
theorem eq_toDate_iff {r : ClockReading} (h : OnLine r.seconds) {d : Date} :
    d = r.toDate ↔ d.IsReal ∧ d.epochDay = r.seconds / 86400 := by
  constructor
  · rintro rfl
    exact epochDay_toDate h
  · intro hd
    obtain ⟨hreal, hday⟩ := hd
    rw [toDate, ← hday, Date.ofEpochDay_epochDay hreal]

end ClockReading

/-! ## Times of day -/

/-- The hour, the minute and the second are those of a day without leap seconds. The fraction plays
    no part. -/
def TimeOfDay.InDay (t : TimeOfDay) : Prop :=
  t.hour.toNat < 24 ∧ t.minute.toNat < 60 ∧ t.second.toNat < 60

instance (t : TimeOfDay) : Decidable t.InDay := inferInstanceAs (Decidable (_ ∧ _))

/-- A time of day lies inside its day. -/
theorem TimeOfDay.InDay.secondsOfDay_bounds {t : TimeOfDay} (h : t.InDay) :
    0 ≤ t.secondsOfDay ∧ t.secondsOfDay < 86400 := by
  obtain ⟨hhour, hminute, hsecond⟩ := h
  unfold secondsOfDay
  omega

/-- A whole time is one of a day without leap seconds. -/
theorem TimeOfDay.IsWhole.inDay {t : TimeOfDay} (h : t.IsWhole) : t.InDay :=
  ⟨h.1, h.2.1, h.2.2.1⟩

/-- A whole time lies inside its day. -/
theorem TimeOfDay.secondsOfDay_bounds {t : TimeOfDay} (h : t.IsWhole) :
    0 ≤ t.secondsOfDay ∧ t.secondsOfDay < 86400 :=
  h.inDay.secondsOfDay_bounds

namespace ClockReading

/-- How far the second field is ahead of the time line: 1 during a leap second. -/
def leap (r : ClockReading) : Nat := if r.nanoseconds < 1000000000 then 0 else 1

/-- Outside a leap second the fraction is less than a second. -/
theorem leap_eq_zero_iff (r : ClockReading) : r.leap = 0 ↔ r.nanoseconds < 1000000000 := by
  unfold leap
  split <;> simp [*]

/-- No more than one leap second goes before a second. -/
theorem leap_le_one (r : ClockReading) : r.leap ≤ 1 := by
  unfold leap
  split <;> decide

/-- The fraction of a reading is less than two seconds. -/
theorem Valid.nanoseconds_lt {r : ClockReading} (h : r.Valid) : r.nanoseconds < 2000000000 := by
  obtain ⟨-, hnano | ⟨hnano, -⟩⟩ := h
  · omega
  · exact hnano

/-- The time of day by its parts. Whether the second of the line is the 59th of its minute plays no
    part, so that this also holds of a clock whose offset is no whole number of minutes. -/
theorem toTime_fields {r : ClockReading} (hnano : r.nanoseconds < 2000000000) :
    (r.toTime.hour.toNat : Int) = r.seconds % 86400 / 3600 ∧
      (r.toTime.minute.toNat : Int) = r.seconds % 3600 / 60 ∧
      (r.toTime.second.toNat : Int) = r.seconds % 60 + r.leap ∧
      r.toTime.nanosecond.toNat + r.leap * 1000000000 = r.nanoseconds := by
  obtain ⟨seconds, nanoseconds⟩ := r
  simp only [toTime, TimeOfDay.ofSecondsOfDay, leap, UInt8.toNat_ofNat', UInt32.toNat_ofNat']
  dsimp only at hnano
  refine ⟨by omega, by omega, ?_, ?_⟩
  · -- Outside a leap second and in one
    split <;> omega
  · split <;> omega

/-- No other time of day has these parts. -/
theorem eq_toTime_iff {r : ClockReading} (hnano : r.nanoseconds < 2000000000) {t : TimeOfDay} :
    t = r.toTime ↔
      (t.hour.toNat : Int) = r.seconds % 86400 / 3600 ∧
        (t.minute.toNat : Int) = r.seconds % 3600 / 60 ∧
        (t.second.toNat : Int) = r.seconds % 60 + r.leap ∧
        t.nanosecond.toNat + r.leap * 1000000000 = r.nanoseconds := by
  have hfields := toTime_fields hnano
  constructor
  · rintro rfl
    exact hfields
  · intro h
    -- Two times of day whose fields are the same numbers are the same
    generalize r.toTime = u at hfields
    obtain ⟨hour, minute, second, nanosecond⟩ := t
    obtain ⟨hour', minute', second', nanosecond'⟩ := u
    simp only [TimeOfDay.mk.injEq, ← UInt8.toNat_inj, ← UInt32.toNat_inj]
    dsimp only at h hfields
    omega

/-- The fields of the time count the seconds of the day, and the leap second. -/
theorem secondsOfDay_toTime {r : ClockReading} (hnano : r.nanoseconds < 2000000000) :
    r.toTime.secondsOfDay = r.seconds % 86400 + r.leap := by
  obtain ⟨hhour, hminute, hsecond, -⟩ := toTime_fields hnano
  unfold TimeOfDay.secondsOfDay
  omega

/-- The fields count the seconds of the reading, and the leap second. -/
theorem epochDay_add_secondsOfDay {r : ClockReading} (h : OnLine r.seconds)
    (hnano : r.nanoseconds < 2000000000) :
    r.toDate.epochDay * 86400 + r.toTime.secondsOfDay = r.seconds + r.leap := by
  rw [(epochDay_toDate h).2, secondsOfDay_toTime hnano]
  omega

/-! ## Readings from fields -/

/-- The reading of some seconds is the one with these numbers, if that is valid. -/
theorem ofSeconds?_eq_some_iff {seconds : Int} {nanoseconds : Nat} {r : ClockReading} :
    ofSeconds? seconds nanoseconds = some r ↔ r.Valid ∧ r = ⟨seconds, nanoseconds⟩ := by
  unfold ofSeconds?
  split
  · next hvalid =>
    rw [Option.some.injEq]
    exact ⟨fun h => h ▸ ⟨hvalid, rfl⟩, fun h => h.2.symm⟩
  · next hinvalid =>
    simp only [reduceCtorEq, false_iff]
    rintro ⟨hvalid, rfl⟩
    exact hinvalid hvalid

/-- The fields of a date and a time have a reading if the date is real, each part of the time is
    in range, and the reading that they count up to is valid. -/
theorem ofFields?_eq_some_iff {d : Date} {hour minute second nanoseconds : Nat}
    {r : ClockReading} :
    ofFields? d.year.toInt d.month d.day.toNat hour minute second nanoseconds = some r ↔
      d.IsReal ∧ hour < 24 ∧ minute < 60 ∧ second < 60 ∧ r.Valid ∧
        r = ⟨d.epochDay * 86400 + (hour * 3600 + minute * 60 + second), nanoseconds⟩ := by
  unfold ofFields? Date.IsReal
  rw [dayOnLine_eq, ← d.epochDay_eq]
  split
  · -- The fields are in range, and the reading decides
    next h => simp [ofSeconds?_eq_some_iff, h]
  · next h =>
    simp only [reduceCtorEq, false_iff]
    rintro ⟨⟨h1, hlen⟩, hhour, hminute, hsecond, -, -⟩
    exact h ⟨h1, hlen, hhour, hminute, hsecond⟩

/-! ## Epoch seconds -/

/-- Without a fraction, a reading is valid if its second is on the time line. -/
theorem valid_iff_onLine (n : Int) : Valid ⟨n, 0⟩ ↔ OnLine n := by
  simp [Valid]

/-- Without a fraction, the time of day is the whole one with the same seconds. -/
theorem eq_toTime_iff_isWhole {n : Int} {t : TimeOfDay} :
    t = toTime ⟨n, 0⟩ ↔ t.IsWhole ∧ t.secondsOfDay = n % 86400 := by
  have hleap : leap ⟨n, 0⟩ = 0 := rfl
  rw [eq_toTime_iff (Nat.succ_pos _), hleap, TimeOfDay.IsWhole, TimeOfDay.secondsOfDay,
    ← UInt32.toNat_inj, UInt32.toNat_zero]
  dsimp only
  omega

end ClockReading

/-- The fields of epoch seconds: the day and the seconds left over. -/
theorem civilOfEpochSeconds?_eq (n : Int) :
    civilOfEpochSeconds? n =
      if ClockReading.OnLine n then
        some (Date.ofEpochDay (n / 86400), TimeOfDay.ofSecondsOfDay (n % 86400).toNat 0)
      else none := by
  simp only [civilOfEpochSeconds?, ClockReading.ofSeconds?, ClockReading.valid_iff_onLine]
  split <;> rfl

/-- What is found, and when. -/
theorem civilOfEpochSeconds?_eq_some_iff {n : Int} {d : Date} {t : TimeOfDay} :
    civilOfEpochSeconds? n = some (d, t) ↔
      d.IsReal ∧ t.IsWhole ∧ Date.firstYear ≤ d.year.toInt ∧ d.year.toInt ≤ Date.lastYear ∧
        n = d.epochDay * 86400 + t.secondsOfDay := by
  -- First the fields that are found for a second on the line
  have hfound : civilOfEpochSeconds? n = some (d, t) ↔
      ClockReading.OnLine n ∧ d = ClockReading.toDate ⟨n, 0⟩ ∧ t = ClockReading.toTime ⟨n, 0⟩ := by
    rw [civilOfEpochSeconds?_eq]
    split
    · next hline => simp [hline, ClockReading.toDate, ClockReading.toTime, eq_comm]
    · next hline => simp [hline]
  rw [hfound, ClockReading.eq_toTime_iff_isWhole]
  constructor
  · intro h
    obtain ⟨hline, hd, hwhole, hseconds⟩ := h
    obtain ⟨hreal, (hday : d.epochDay = n / 86400)⟩ := (ClockReading.eq_toDate_iff hline).1 hd
    obtain ⟨h0, hlt⟩ := TimeOfDay.secondsOfDay_bounds hwhole
    have hn : n = d.epochDay * 86400 + t.secondsOfDay := by omega
    -- A second on the line lies in a year of the line
    rw [hn] at hline
    obtain ⟨hfirst, hlast⟩ := (ClockReading.onLine_iff hreal h0 hlt).1 hline
    exact ⟨hreal, hwhole, hfirst, hlast, hn⟩
  · intro h
    obtain ⟨hreal, hwhole, hfirst, hlast, rfl⟩ := h
    obtain ⟨h0, hlt⟩ := TimeOfDay.secondsOfDay_bounds hwhole
    have hline := (ClockReading.onLine_iff hreal h0 hlt).2 ⟨hfirst, hlast⟩
    -- Day and seconds of the day are quotient and remainder
    refine ⟨hline, (ClockReading.eq_toDate_iff hline).2 ⟨hreal, ?_⟩, hwhole, ?_⟩
    · dsimp only
      omega
    · omega

end TimePattern
