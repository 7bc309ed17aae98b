import TimePattern.Print
import TimePattern.Proofs.Field.WrittenNumber
import TimePattern.Proofs.Stamp.Chronology

/-!
# The day of the year

The day of the year counts the days of the months before and those of the month itself, also for a
day that its month does not have. The real dates of a year have the numbers from 1 to the length of
the year, each in its place. Three digits have room for all of them, and for those of the other
dates too.

## Key results

- `Date.dayOfYear_eq_daysBefore`: the months before and the day of the month
- `Month.exists_daysBefore_add_eq`: each number up to the length of the year is reached in a month
- `Date.sameOrder_dayOfYear`: the dates of a year are numbered in their order
- `Directive.print_dayOfYear`: three digits
- `Date.dayOfYear_numbers_year`: all of these
-/

namespace TimePattern

/-! ## Days of a year -/

namespace Month

/-- The months in front of one in the list are those of smaller ordinal. -/
theorem take_ordinal_eq_filter (m : Month) :
    all.take m.ordinal = all.filter fun earlier => earlier.ordinal < m.ordinal := by
  cases m <;> rfl

/-- Each number from 1 to the length of the year belongs to a day of one of its months. -/
theorem exists_daysBefore_add_eq (year : Int) {n : Nat} (h1 : 1 ≤ n) (h : n ≤ yearLength year) :
    ∃ (m : Month) (day : Nat), 1 ≤ day ∧ day ≤ m.length year ∧ m.daysBefore year + day = n := by
  -- Day after day, from the first of January on
  induction n with
  | zero => omega
  | succ n ih =>
    by_cases h0 : n = 0
    · subst h0
      exact ⟨january, 1, Nat.le_refl 1, january.one_le_length year, rfl⟩
    · obtain ⟨m, day, hfirst, hlast, hn⟩ := ih (by omega) (by omega)
      by_cases hday : day < m.length year
      · -- The next day of the same month
        exact ⟨m, day + 1, by omega, hday, by omega⟩
      · -- The month is over, but not the year
        have hdec : m ≠ december := by
          intro hm
          subst hm
          have hyear := daysBefore_december year
          have hlength : december.length year = 31 := rfl
          omega
        have hnext := daysBefore_next year hdec
        exact ⟨m.next, 1, Nat.le_refl 1, m.next.one_le_length year, by omega⟩

end Month

/-! ## Days of the year of dates -/

namespace Date

/-- The months before and the day of the month, whether or not the month has that day. -/
theorem dayOfYear_eq_daysBefore (d : Date) :
    d.dayOfYear = d.month.daysBefore d.year.toInt + d.day.toNat := by
  rw [dayOfYear, epochDay_eq_daysBefore]
  omega

/-- Three digits have room for the day of the year of any date. -/
theorem dayOfYear_bounds (d : Date) : 0 ≤ d.dayOfYear ∧ d.dayOfYear < 1000 := by
  have hmonth := d.month.daysBefore_add_length_le d.year.toInt
  have hyear := yearLength_le d.year.toInt
  have hday := d.day.toNat_lt
  -- At most 366 days of earlier months and this one, and at most 255 for the day
  rw [dayOfYear_eq_daysBefore]
  omega

/-- The real dates of a year have the numbers from 1 to its length. -/
theorem exists_dayOfYear_eq_iff (year : Int32) (n : Int) :
    (∃ d : Date, d.year = year ∧ d.IsReal ∧ d.dayOfYear = n) ↔
      1 ≤ n ∧ n ≤ yearLength year.toInt := by
  constructor
  · intro h
    obtain ⟨d, rfl, ⟨hfirst, hlast⟩, rfl⟩ := h
    have hmonth := d.month.daysBefore_add_length_le d.year.toInt
    rw [dayOfYear_eq_daysBefore]
    omega
  · intro h
    obtain ⟨m, day, hfirst, hlast, hn⟩ :=
      Month.exists_daysBefore_add_eq year.toInt (n := n.toNat) (by omega) (by omega)
    -- Days of a month fit the 8 bits of the day field
    have hlength := m.length_le year.toInt
    have hday : (UInt8.ofNat day).toNat = day := UInt8.toNat_ofNat_of_lt (show day < 256 by omega)
    refine ⟨⟨year, m, UInt8.ofNat day⟩, rfl, ?_, ?_⟩
    · show 1 ≤ (UInt8.ofNat day).toNat ∧ (UInt8.ofNat day).toNat ≤ m.length year.toInt
      rw [hday]
      exact ⟨hfirst, hlast⟩
    · rw [dayOfYear_eq_daysBefore]
      dsimp only
      omega

/-- Days of one year compare as the fields of the dates do. -/
theorem sameOrder_dayOfYear {d e : Date} (hd : d.IsReal) (he : e.IsReal) (hyear : d.year = e.year) :
    SameOrder d.dayOfYear e.dayOfYear d.fields e.fields := by
  obtain ⟨hlt, heq⟩ := sameOrder_fields hd he
  -- Both count from the first of January of the one year
  rw [dayOfYear, dayOfYear, hyear]
  constructor
  · rw [← hlt]
    omega
  · rw [← heq]
    omega

end Date

/-! ## Printed days of the year -/

/-- The day of the year is printed with three digits, whatever the date. -/
theorem Directive.print_dayOfYear (m : Moment) :
    Field.DigitText 3 (dayOfYear.print m) ∧
      (Decimal.value (dayOfYear.print m) : Int) = m.date.dayOfYear := by
  obtain ⟨h0, hlt⟩ := m.date.dayOfYear_bounds
  rw [print, Decimal.ofInt_of_nonneg h0, Decimal.value_ofNat]
  exact ⟨Field.digitText_ofNat (by decide) (by omega), by omega⟩

/-- The day of the year is the sum of the lengths of the earlier months and the day of the month, for
    any date. The real dates of a year are numbered in their order, from 1 to 365, or to 366 just in
    leap years, and the number of any date is printed with three digits. -/
theorem Date.dayOfYear_numbers_year (year : Int32) :
    (∀ (month : Month) (day : UInt8),
      (⟨year, month, day⟩ : Date).dayOfYear =
        ((Month.all.filter fun earlier => earlier.ordinal < month.ordinal).map
          (Month.length year.toInt)).sum + day.toNat) ∧
      (∀ d e : Date, d.year = year → e.year = year → d.IsReal → e.IsReal →
        (d.dayOfYear < e.dayOfYear ↔ d.fields < e.fields)) ∧
      (∀ n : Int, (∃ d : Date, d.year = year ∧ d.IsReal ∧ d.dayOfYear = n) ↔
        1 ≤ n ∧ n ≤ if isLeapYear year.toInt then 366 else 365) ∧
      ∀ m : Moment, Field.DigitText 3 (Directive.dayOfYear.print m) ∧
        (Decimal.value (Directive.dayOfYear.print m) : Int) = m.date.dayOfYear := by
  have hlength : (yearLength year.toInt : Int) = if isLeapYear year.toInt then 366 else 365 := by
    unfold yearLength
    split <;> rfl
  -- The sum, the order and the range; printing has its own lemma
  refine ⟨?_, ?_, ?_, Directive.print_dayOfYear⟩
  · intro month day
    rw [dayOfYear_eq_daysBefore, Month.daysBefore_eq_sum, Month.take_ordinal_eq_filter]
  · intro d e hdyear heyear hd he
    exact (sameOrder_dayOfYear hd he (hdyear.trans heyear.symm)).lt_iff
  · intro n
    rw [exists_dayOfYear_eq_iff, hlength]

/-- The leap day and the day after it. -/
theorem Date.dayOfYear_numbers_year_leapDay :
    let d : Date := ⟨2024, .february, 29⟩
    let e : Date := ⟨2024, .march, 1⟩
    d.year = 2024 ∧ e.year = 2024 ∧ d.IsReal ∧ e.IsReal ∧
      (d.dayOfYear < e.dayOfYear ↔ d.fields < e.fields) :=
  ⟨rfl, rfl, by decide, by decide,
    (Date.dayOfYear_numbers_year 2024).2.1 ⟨2024, .february, 29⟩ ⟨2024, .march, 1⟩ rfl rfl
      (by decide) (by decide)⟩

end TimePattern
