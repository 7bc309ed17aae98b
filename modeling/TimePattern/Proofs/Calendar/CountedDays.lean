import Mathlib.Algebra.BigOperators.Group.Finset.Basic
import TimePattern.Proofs.Calendar.Ticking

/-!
# Day numbers as sums

The number of a day by counting alone: the lengths of the years between 1970 and its own are added
up, or taken off for a year before 1970, and then come the lengths of the months before and the
days of the month. A day that its month does not have is counted like any other.

## Key results

- `sum_yearLength`: the years from one New Year to another
- `dayNumber_eq_countedDay`: day numbers count days
- `countedDay_next` / `countedDay_previous`: the count goes on into the months next to it
- `Date.epochDay_eq_countedDay`: both for the number of a date
-/

namespace TimePattern

/-! ## Years -/

/-- The days from the start of 1970 to that of a year, counted year by year: forwards from 1970,
    or backwards from it. -/
def countedYears (year : Int) : Int :=
  ∑ k ∈ Finset.range (year - 1970).toNat, (yearLength (1970 + k) : Int) -
    ∑ k ∈ Finset.range (1970 - year).toNat, (yearLength (year + k) : Int)

/-- The lengths of some years in a row add up to the days between two New Years. -/
theorem sum_yearLength (start : Int) (n : Nat) :
    ∑ k ∈ Finset.range n, (yearLength (start + k) : Int) =
      dayNumber (start + n) .january 1 - dayNumber start .january 1 := by
  induction n with
  | zero => simp
  | succ n ih =>
    have hnext := dayNumber_next_january (start + n)
    -- The next year adds what lies between its New Year and the one after
    rw [Finset.sum_range_succ, ih, Int.natCast_succ, ← Int.add_assoc]
    omega

/-- The number of a New Year counts the days of the years between. -/
theorem dayNumber_january_eq_countedYears (year : Int) :
    dayNumber year .january 1 = countedYears year := by
  have hepoch : dayNumber 1970 .january 1 = 0 := by decide
  unfold countedYears
  rw [sum_yearLength, sum_yearLength, hepoch]
  -- One of the two runs of years is empty
  by_cases h : 1970 ≤ year
  · have hforwards : (1970 : Int) + (year - 1970).toNat = year := by omega
    have hbackwards : (1970 - year).toNat = 0 := by omega
    rw [hforwards, hbackwards]
    simp
  · have hforwards : (year - 1970).toNat = 0 := by omega
    have hbackwards : year + (1970 - year).toNat = 1970 := by omega
    rw [hforwards, hbackwards]
    simp [hepoch]

/-! ## Days -/

/-- The number of a day, counted from the first of 1970 over the years, the months and the days of
    the month that lie between. -/
def countedDay (year : Int) (month : Month) (day : Int) : Int :=
  countedYears year + month.daysBefore year + (day - 1)

/-- Day numbers count days. -/
theorem dayNumber_eq_countedDay (year : Int) (month : Month) (day : Int) :
    dayNumber year month day = countedDay year month day := by
  rw [dayNumber_eq_daysBefore, dayNumber_january_eq_countedYears, countedDay]
  omega

/-! ## Neighbouring months -/

namespace Month

/-- The year of the month after one of the given year. -/
def yearOfNext (year : Int) (m : Month) : Int := if m = .december then year + 1 else year

/-- The month before this one, in a circle. -/
def previous (m : Month) : Month := ofOrdinal (m.ordinal - 1)

/-- The year of the month before one of the given year. -/
def yearOfPrevious (year : Int) (m : Month) : Int := if m = .january then year - 1 else year

/-- The month after the one before is the month itself. -/
@[simp] theorem next_previous (m : Month) : m.previous.next = m := by
  cases m <;> rfl

@[simp] theorem yearOfNext_previous (year : Int) (m : Month) :
    m.previous.yearOfNext (m.yearOfPrevious year) = year := by
  -- Only January and December change the year, and they undo each other
  cases m <;> simp [yearOfNext, yearOfPrevious, previous, ofOrdinal, ordinal]

end Month

/-- The days of a month and those of the next one are one sequence. -/
theorem countedDay_next (year : Int) (m : Month) (day : Int) :
    countedDay (m.yearOfNext year) m.next day = countedDay year m (m.length year + day) := by
  rw [← dayNumber_eq_countedDay, ← dayNumber_eq_countedDay, dayNumber_eq_daysBefore,
    dayNumber_eq_daysBefore year]
  by_cases h : m = .december
  · -- The next year begins
    subst h
    have hyear := dayNumber_next_january year
    have hdays := Month.daysBefore_december year
    have hfirst : Month.december.next.daysBefore (year + 1) = 0 := rfl
    have hlength : Month.december.length year = 31 := rfl
    rw [Month.yearOfNext, if_pos rfl, hfirst, hlength, hyear]
    omega
  · have hdays := Month.daysBefore_next year h
    rw [Month.yearOfNext, if_neg h, hdays]
    omega

/-- The days of a month and those of the one before it are one sequence. -/
theorem countedDay_previous (year : Int) (m : Month) (day : Int) :
    countedDay year m day =
      countedDay (m.yearOfPrevious year) m.previous
        (m.previous.length (m.yearOfPrevious year) + day) := by
  -- This is the step forward, taken from the month before
  rw [← countedDay_next, Month.next_previous, Month.yearOfNext_previous]

/-- The number of a date is counted over years, months and days, whatever its day. A day past the
    end of its month counts as a day of the next one, and day 0 as the last day of the one before. -/
theorem Date.epochDay_eq_countedDay (year : Int32) (month : Month) (day : UInt8) :
    (⟨year, month, day⟩ : Date).epochDay = countedDay year.toInt month day.toNat ∧
      (⟨year, month, day⟩ : Date).epochDay =
        countedDay (month.yearOfNext year.toInt) month.next
          (day.toNat - month.length year.toInt) ∧
      (⟨year, month, day⟩ : Date).epochDay =
        countedDay (month.yearOfPrevious year.toInt) month.previous
          (month.previous.length (month.yearOfPrevious year.toInt) + day.toNat) := by
  have hcounted : (⟨year, month, day⟩ : Date).epochDay = countedDay year.toInt month day.toNat := by
    rw [epochDay_eq, dayNumber_eq_countedDay]
  refine ⟨hcounted, ?_, ?_⟩
  · have hday : (month.length year.toInt : Int) + (day.toNat - month.length year.toInt) =
        day.toNat := by omega
    -- Past the end, the length of the month is taken off again
    rw [hcounted, countedDay_next, hday]
  · rw [hcounted, countedDay_previous]

end TimePattern
