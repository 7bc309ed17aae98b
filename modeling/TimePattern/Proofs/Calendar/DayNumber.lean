import TimePattern.Calendar.Gregorian

/-!
# Day numbers count days

The arithmetic of `MarchDate` goes both ways without loss, and day numbers run through the months
and years of the calendar one after the other.

## Key results

- `ofDayNumber_dayNumber` / `dayNumber_ofDayNumber`: days and their numbers determine each other
- `valid_ofDayNumber`: each number belongs to a day that exists
- `dayNumber_eq_daysBefore`: a day's number is that of New Year, plus the lengths of the months
  before, plus the day of the month
- `commonEraDay_eq`: the count by years and days of the year agrees
- `dayNumber_next_january`: one New Year is a year's length after the other
-/

namespace TimePattern

/-! ## Leap years -/

/-- When a year is a leap year, in terms of its remainders. -/
theorem isLeapYear_iff (year : Int) :
    isLeapYear year = true ↔ year % 4 = 0 ∧ (year % 100 ≠ 0 ∨ year % 400 = 0) := by
  simp [isLeapYear]

/-- A leap year counts one more than the year before it. -/
theorem leapDays_eq (year : Int) :
    leapDays year = leapDays (year - 1) + if isLeapYear year then 1 else 0 := by
  unfold leapDays
  -- The three divisions step forward together just where the leap year rule says
  split
  · next h =>
    rw [isLeapYear_iff] at h
    omega
  · next h =>
    rw [isLeapYear_iff] at h
    omega

/-- Later years have as many leap years behind them, or more. -/
theorem leapDays_mono {y z : Int} (h : y ≤ z) : leapDays y ≤ leapDays z := by
  unfold leapDays
  omega

/-! ## Years in their cycles

A year is taken apart into the period of 400 years, the century, the four years and the year of
the four in which it lies. Each part then counts a fixed number of days, and the minima in
`MarchDate.ofDayNumber` pick the parts again. -/

/-- A year by its place in the periods of 400, 100 and 4 years that the calendar repeats. -/
structure YearPlace where
  era : Int
  century : Int
  cycle : Int
  yearOfCycle : Int
  century_mem : 0 ≤ century ∧ century < 4
  cycle_mem : 0 ≤ cycle ∧ cycle < 25
  yearOfCycle_mem : 0 ≤ yearOfCycle ∧ yearOfCycle < 4

namespace YearPlace

/-- The year at the place. -/
def year (p : YearPlace) : Int := p.era * 400 + p.century * 100 + p.cycle * 4 + p.yearOfCycle

/-- The days between the first of March of year 0 and that of the year at the place. -/
def daysBefore (p : YearPlace) : Int :=
  p.era * 146097 + p.century * 36524 + p.cycle * 1461 + p.yearOfCycle * 365

/-- The place of a year. -/
def ofYear (year : Int) : YearPlace where
  era := year / 400
  century := year % 400 / 100
  cycle := year % 100 / 4
  yearOfCycle := year % 4
  century_mem := by omega
  cycle_mem := by omega
  yearOfCycle_mem := by omega

/-- A year is found again at its place. -/
@[simp] theorem year_ofYear (y : Int) : (ofYear y).year = y := by
  simp only [year, ofYear]
  omega

/-- The February of a March year belongs to the next civil year. It has a leap day in the last
    year of each four, except for three of the four ends of a century. -/
theorem isLeapYear_next (p : YearPlace) :
    isLeapYear (p.year + 1) = true ↔ p.yearOfCycle = 3 ∧ (p.cycle < 24 ∨ p.century = 3) := by
  obtain ⟨era, century, cycle, yearOfCycle, hcentury, hcycle, hyear⟩ := p
  rw [isLeapYear_iff]
  simp only [year]
  omega

/-- The days before a year, counted by its place, are 365 for each year and one for each leap year.
    -/
theorem daysBefore_eq (p : YearPlace) : p.daysBefore = p.year * 365 + leapDays p.year := by
  obtain ⟨era, century, cycle, yearOfCycle, hcentury, hcycle, hyear⟩ := p
  simp only [year, daysBefore, leapDays]
  omega

end YearPlace

namespace MarchDate

/-- The day number without eras. -/
theorem dayNumber_eq (d : MarchDate) :
    d.dayNumber = d.year * 365 + leapDays d.year + d.dayOfYear - 719468 := by
  simp only [dayNumber, dayOfEra, yearOfEra, era, leapDays]
  omega

/-- A day of the year lies inside the March year. -/
def InYear (year dayOfYear : Int) : Prop :=
  0 ≤ dayOfYear ∧ (dayOfYear < 365 ∨ dayOfYear < 366 ∧ isLeapYear (year + 1) = true)

/-- The day that lies `doy` days into the year at a place. -/
theorem ofDayNumber_place (p : YearPlace) {doy : Int} (h : InYear p.year doy) :
    ofDayNumber (p.daysBefore + doy - 719468) =
      ⟨p.year, (5 * doy + 2) / 153, doy - (153 * ((5 * doy + 2) / 153) + 2) / 5⟩ := by
  obtain ⟨h0, h⟩ := h
  rw [p.isLeapYear_next] at h
  obtain ⟨era, century, cycle, yearOfCycle, hcentury, hcycle, hyear⟩ := p
  simp only [YearPlace.daysBefore, YearPlace.year] at h ⊢
  -- Each division of `ofDayNumber` takes off one part of the sum
  have hstart : era * 146097 + century * 36524 + cycle * 1461 + yearOfCycle * 365 + doy - 719468 +
      719468 = era * 146097 + (century * 36524 + cycle * 1461 + yearOfCycle * 365 + doy) := by
    omega
  have hera : (era * 146097 + (century * 36524 + cycle * 1461 + yearOfCycle * 365 + doy)) / 146097
      = era := by omega
  have hofEra : (era * 146097 + (century * 36524 + cycle * 1461 + yearOfCycle * 365 + doy)) %
      146097 = century * 36524 + cycle * 1461 + yearOfCycle * 365 + doy := by omega
  have hcent : min ((century * 36524 + cycle * 1461 + yearOfCycle * 365 + doy) / 36524) 3 =
      century := by omega
  have hofCent : century * 36524 + cycle * 1461 + yearOfCycle * 365 + doy - century * 36524 =
      cycle * 1461 + yearOfCycle * 365 + doy := by omega
  have hcyc : (cycle * 1461 + yearOfCycle * 365 + doy) / 1461 = cycle := by omega
  have hofCyc : (cycle * 1461 + yearOfCycle * 365 + doy) % 1461 = yearOfCycle * 365 + doy := by
    omega
  have hyoc : min ((yearOfCycle * 365 + doy) / 365) 3 = yearOfCycle := by omega
  have hdoy : yearOfCycle * 365 + doy - yearOfCycle * 365 = doy := by omega
  -- What is left of the sum are the parts themselves
  simp only [ofDayNumber, hstart, hera, hofEra, hcent, hofCent, hcyc, hofCyc, hyoc, hdoy]

/-- Each number counts some days into a year. -/
theorem exists_place (n : Int) :
    ∃ (p : YearPlace) (doy : Int), InYear p.year doy ∧ n = p.daysBefore + doy - 719468 := by
  have hera := Int.emod_add_mul_ediv (n + 719468) 146097
  have hofEra : 0 ≤ (n + 719468) % 146097 ∧ (n + 719468) % 146097 < 146097 := by omega
  generalize (n + 719468) / 146097 = era at hera
  generalize (n + 719468) % 146097 = dayOfEra at hera hofEra
  -- The parts that `ofDayNumber` takes off; the minima leave the leap day to the last year
  obtain ⟨century, hcentury⟩ : ∃ c, c = min (dayOfEra / 36524) 3 := ⟨_, rfl⟩
  obtain ⟨cycle, hcycle⟩ : ∃ c, c = (dayOfEra - century * 36524) / 1461 := ⟨_, rfl⟩
  obtain ⟨yearOfCycle, hyear⟩ :
      ∃ y, y = min ((dayOfEra - century * 36524 - cycle * 1461) / 365) 3 := ⟨_, rfl⟩
  refine ⟨⟨era, century, cycle, yearOfCycle, by omega, by omega, by omega⟩,
    dayOfEra - century * 36524 - cycle * 1461 - yearOfCycle * 365, ⟨by omega, ?_⟩, ?_⟩
  · rw [YearPlace.isLeapYear_next]
    dsimp only
    omega
  · simp only [YearPlace.daysBefore]
    omega

/-! ## Days that exist -/

/-- The day exists: months count from 0 to 11, and the day lies inside the month. -/
def Valid (d : MarchDate) : Prop :=
  0 ≤ d.month ∧ d.month < 12 ∧ 1 ≤ d.civilDay ∧ d.civilDay ≤ d.civilMonth.length d.civilYear

/-- The twelve months of a year that begins in March. -/
theorem month_cases {m : Int} (h0 : 0 ≤ m) (h12 : m < 12) :
    m = 0 ∨ m = 1 ∨ m = 2 ∨ m = 3 ∨ m = 4 ∨ m = 5 ∨ m = 6 ∨ m = 7 ∨ m = 8 ∨ m = 9 ∨ m = 10 ∨
      m = 11 := by
  omega

/-- The months before the last have lengths that repeat every five; the last is February. -/
theorem length_civilMonth {d : MarchDate} (h0 : 0 ≤ d.month) (h12 : d.month < 12) :
    (d.civilMonth.length d.civilYear : Int) =
      if d.month = 11 then (if isLeapYear (d.year + 1) then 29 else 28)
      else (153 * (d.month + 1) + 2) / 5 - (153 * d.month + 2) / 5 := by
  obtain ⟨year, month, day⟩ := d
  simp only [civilMonth, civilYear] at h0 h12 ⊢
  rcases month_cases h0 h12 with
    rfl | rfl | rfl | rfl | rfl | rfl | rfl | rfl | rfl | rfl | rfl | rfl
  -- February, where the next civil year tells the length
  case inr.inr.inr.inr.inr.inr.inr.inr.inr.inr.inr =>
    change ((if isLeapYear (year + 1) then 29 else 28 : Nat) : Int) = _
    cases isLeapYear (year + 1) <;> rfl
  all_goals rfl

/-- The day of the year tells month and day. -/
theorem dayOfYear_of_valid {d : MarchDate} (h : d.Valid) :
    InYear d.year d.dayOfYear ∧ (5 * d.dayOfYear + 2) / 153 = d.month := by
  obtain ⟨h0, h12, hday, hlen⟩ := h
  -- The length of the month bounds how far the day of the year is from the next month
  rw [length_civilMonth h0 h12] at hlen
  simp only [InYear, civilDay, dayOfYear] at hday hlen ⊢
  -- Only in February, the last month, may the day of the year reach 365
  split at hlen
  · split at hlen
    · next hleap => exact ⟨⟨by omega, .inr ⟨by omega, hleap⟩⟩, by omega⟩
    · exact ⟨⟨by omega, .inl (by omega)⟩, by omega⟩
  · exact ⟨⟨by omega, .inl (by omega)⟩, by omega⟩

/-- Each day inside a March year is one of a month. -/
theorem valid_of_inYear {year doy : Int} (h : InYear year doy) :
    Valid ⟨year, (5 * doy + 2) / 153, doy - (153 * ((5 * doy + 2) / 153) + 2) / 5⟩ := by
  obtain ⟨h0, h⟩ := h
  have hmonth0 : 0 ≤ (5 * doy + 2) / 153 := by omega
  have hmonth12 : (5 * doy + 2) / 153 < 12 := by omega
  refine ⟨hmonth0, hmonth12, by simp only [civilDay]; omega, ?_⟩
  rw [length_civilMonth hmonth0 hmonth12]
  simp only [civilDay]
  split
  · -- February ends with the year, which may have a leap day
    rcases h with h | ⟨h, hleap⟩
    · split <;> omega
    · rw [if_pos hleap]
      omega
  · omega

/-- Each day is found again by its number. -/
theorem ofDayNumber_dayNumber {d : MarchDate} (h : d.Valid) : ofDayNumber d.dayNumber = d := by
  obtain ⟨hin, hmonth⟩ := dayOfYear_of_valid h
  have hyear := YearPlace.year_ofYear d.year
  have hday : d.dayOfYear - (153 * d.month + 2) / 5 = d.day := by
    simp only [dayOfYear]
    omega
  -- The year is given by its place, for which the day has been found
  rw [← hyear] at hin
  rw [dayNumber_eq, ← hyear, ← YearPlace.daysBefore_eq, ofDayNumber_place _ hin, hmonth, hyear,
    hday]

/-- Each number is that of the day found by it. -/
theorem dayNumber_ofDayNumber (n : Int) : (ofDayNumber n).dayNumber = n := by
  obtain ⟨p, doy, h, rfl⟩ := exists_place n
  -- Some place and some day of its year have this number
  rw [ofDayNumber_place p h, dayNumber_eq, p.daysBefore_eq]
  simp only [dayOfYear]
  omega

/-- Only days that exist are found. -/
theorem valid_ofDayNumber (n : Int) : (ofDayNumber n).Valid := by
  obtain ⟨p, doy, h, rfl⟩ := exists_place n
  rw [ofDayNumber_place p h]
  exact valid_of_inYear h

/-! ## Civil fields -/

/-- The civil year is kept. -/
@[simp] theorem civilYear_ofCivil (year : Int) (month : Month) (day : Int) :
    (ofCivil year month day).civilYear = year := by
  cases month <;> simp [civilYear, ofCivil, Month.number, Month.ordinal]

/-- The civil month is kept. -/
@[simp] theorem civilMonth_ofCivil (year : Int) (month : Month) (day : Int) :
    (ofCivil year month day).civilMonth = month := by
  cases month <;> rfl

/-- The day of the civil month is kept. -/
@[simp] theorem civilDay_ofCivil (year : Int) (month : Month) (day : Int) :
    (ofCivil year month day).civilDay = day := by
  simp [civilDay, ofCivil]

/-- A day that its civil month has exists. -/
theorem valid_ofCivil {year : Int} {month : Month} {day : Int} (h1 : 1 ≤ day)
    (h : day ≤ month.length year) : (ofCivil year month day).Valid := by
  refine ⟨?_, ?_, by simpa using h1, by simpa using h⟩
  · simp only [ofCivil]
    omega
  · simp only [ofCivil]
    omega

/-- A day that exists is found again by its civil fields. -/
theorem ofCivil_civil {d : MarchDate} (h : d.Valid) :
    ofCivil d.civilYear d.civilMonth d.civilDay = d := by
  obtain ⟨h0, h12, -, -⟩ := h
  obtain ⟨year, month, day⟩ := d
  rcases month_cases h0 h12 with
    rfl | rfl | rfl | rfl | rfl | rfl | rfl | rfl | rfl | rfl | rfl | rfl <;>
    simp [civilYear, civilMonth, civilDay, ofCivil, Month.ofOrdinal, Month.number, Month.ordinal]

end MarchDate

/-! ## Months and years one after the other -/

/-- The number of days in a year. -/
def yearLength (year : Int) : Nat := if isLeapYear year then 366 else 365

/-- No year has more than 366 days. -/
theorem yearLength_le (year : Int) : yearLength year ≤ 366 := by
  unfold yearLength
  split <;> omega

/-- A month ends before its year does. -/
theorem Month.daysBefore_add_length_le (year : Int) (m : Month) :
    m.daysBefore year + m.length year ≤ yearLength year := by
  unfold yearLength
  -- Both kinds of years, month by month
  cases hleap : isLeapYear year <;> cases m <;>
    simp [daysBefore, all, ordinal, length, hleap]

/-- New Year has 365 days behind it for each year, and one more for each leap year. -/
theorem dayNumber_january (year : Int) :
    dayNumber year .january 1 = (year - 1) * 365 + leapDays (year - 1) - 719162 := by
  -- New Year lies 306 days into the March year before
  have hcivil : MarchDate.ofCivil year .january 1 = ⟨year - 1, 10, 0⟩ := rfl
  rw [dayNumber, MarchDate.dayNumber_eq, hcivil]
  simp only [MarchDate.dayOfYear]
  omega

/-- A day's number is that of New Year, plus the lengths of the months before, plus the day of
    the month. -/
theorem dayNumber_eq_daysBefore (year : Int) (month : Month) (day : Int) :
    dayNumber year month day =
      dayNumber year .january 1 + month.daysBefore year + day - 1 := by
  rw [dayNumber_january, dayNumber, MarchDate.dayNumber_eq]
  -- From March on the leap day of the year lies behind
  have hleap := leapDays_eq year
  cases h : isLeapYear year <;> rw [h] at hleap <;> cases month <;>
    simp [MarchDate.ofCivil, MarchDate.dayOfYear, Month.daysBefore, Month.all, Month.number,
      Month.ordinal, Month.length, h] at hleap ⊢ <;> omega

/-- The count by years and days of the year is that of the days since 1970, from an earlier start. -/
theorem commonEraDay_eq (year : Int) (month : Month) (day : Nat) :
    commonEraDay year month day = dayNumber year month day + 719163 := by
  rw [commonEraDay, dayNumber_eq_daysBefore, dayNumber_january]
  omega

/-- One New Year is a year's length after the other. -/
theorem dayNumber_next_january (year : Int) :
    dayNumber (year + 1) .january 1 = dayNumber year .january 1 + yearLength year := by
  have hleap := leapDays_eq year
  rw [dayNumber_january, dayNumber_january, yearLength, Int.add_sub_cancel]
  cases h : isLeapYear year <;> rw [h] at hleap <;> simp at hleap ⊢ <;> omega

/-- Later years have later New Years. -/
theorem dayNumber_january_mono {y z : Int} (h : y ≤ z) :
    dayNumber y .january 1 ≤ dayNumber z .january 1 := by
  have hleap := leapDays_mono (y := y - 1) (z := z - 1) (by omega)
  rw [dayNumber_january, dayNumber_january]
  omega

/-- A day that exists lies between the New Years of its year and the next. -/
theorem dayNumber_mem_year {year : Int} {month : Month} {day : Int} (h1 : 1 ≤ day)
    (h : day ≤ month.length year) :
    dayNumber year .january 1 ≤ dayNumber year month day ∧
      dayNumber year month day < dayNumber (year + 1) .january 1 := by
  have hmonth := month.daysBefore_add_length_le year
  -- The month ends before the year does, and the day is one of the month
  rw [dayNumber_eq_daysBefore year month day, dayNumber_next_january]
  omega

/-- The year of a day that exists is told by the New Years before and after it. -/
theorem dayNumber_january_le_iff {year : Int} {month : Month} {day : Int} (h1 : 1 ≤ day)
    (h : day ≤ month.length year) (y : Int) :
    dayNumber y .january 1 ≤ dayNumber year month day ↔ y ≤ year := by
  obtain ⟨hlo, hhi⟩ := dayNumber_mem_year h1 h
  constructor
  · -- A later New Year would lie behind the whole year of the day
    intro hle
    apply Int.not_lt.1
    intro hlt
    have hmono := dayNumber_january_mono (y := year + 1) (z := y) (by omega)
    omega
  · intro hle
    -- An earlier New Year comes before that of the year itself
    have hmono := dayNumber_january_mono hle
    omega

end TimePattern
