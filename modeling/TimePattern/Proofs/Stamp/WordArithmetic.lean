import Mathlib.Algebra.Group.Int.Defs
import Mathlib.Algebra.Group.Nat.Defs
import TimePattern.Proofs.Calendar.CivilTime
import TimePattern.Stamp

/-!
# Calendar arithmetic in machine words

Days and seconds are counted with integers of any size. Here the same numbers are computed in signed
words of 64 bits, one operation after the other. A result that does not fit a word is missing, and
so is everything that is computed from it. Whatever the fields of a stamp are, nothing is missing:
the words hold the integers at each step.

## Key results

- `Checked.computes_binary_iff`: an operation has a result if the operands are there and it fits
- `Checked.dayNumber_computes`: day numbers of all years of 32 bits
- `Date.epochDay_natAbs_le`: how large the number of a date can be
- `Stamp.arithmetic_fits_words`: all calendar arithmetic of a stamp
-/

namespace TimePattern

/-! ## Words -/

/-- A signed word of 64 bits has room for the number. -/
abbrev FitsWord (n : Int) : Prop := -2 ^ 63 ≤ n ∧ n < 2 ^ 63

/-- A number that is computed in words. It is missing if a step on the way to it did not fit. -/
structure Checked where
  word? : Option Int64

namespace Checked

/-- The word of a number that fits. -/
def ofInt (n : Int) : Checked := ⟨if FitsWord n then some (Int64.ofInt n) else none⟩

/-- An operation on the numbers in two words. The result is missing if one of the two is, or if it
    does not fit a word itself. -/
def binary (op : Int → Int → Int) (a b : Checked) : Checked where
  word? := a.word?.bind fun x => b.word?.bind fun y => (ofInt (op x.toInt y.toInt)).word?

instance (n : Nat) : OfNat Checked n := ⟨ofInt (OfNat.ofNat n)⟩

instance : Add Checked := ⟨binary (· + ·)⟩

instance : Sub Checked := ⟨binary (· - ·)⟩

instance : Mul Checked := ⟨binary (· * ·)⟩

/-- Division that drops the fraction of the quotient. -/
instance : Div Checked := ⟨binary Int.tdiv⟩

/-- The remainder of a division that drops the fraction. -/
instance : Mod Checked := ⟨binary Int.tmod⟩

/-- Division by a positive number that rounds the quotient down. -/
def floorDiv : Checked → Checked → Checked := binary (· / ·)

/-- The result is there, and it is the given number. -/
def Computes (c : Checked) (n : Int) : Prop := ∃ w, c.word? = some w ∧ w.toInt = n

/-- A number has its word just if it fits. -/
theorem computes_ofInt_iff {n m : Int} : (ofInt n).Computes m ↔ FitsWord n ∧ m = n := by
  unfold Computes ofInt
  by_cases h : FitsWord n
  · have hn := Int64.toInt_ofInt_of_le h.1 h.2
    simp only [if_pos h, Option.some.injEq, exists_eq_left', hn]
    exact ⟨fun hm => ⟨h, hm.symm⟩, fun hm => hm.2.symm⟩
  · simp [h]

/-- There is a result just if both operands are there and the result fits. -/
theorem computes_binary_iff {f : Int → Int → Int} {a b : Checked} {n : Int} :
    (binary f a b).Computes n ↔
      ∃ x y, a.Computes x ∧ b.Computes y ∧ FitsWord (f x y) ∧ n = f x y := by
  constructor
  · -- A result that is there has both operands behind it
    intro h
    obtain ⟨w, hw, hn⟩ := h
    simp only [binary, Option.bind_eq_some_iff] at hw
    obtain ⟨x, hx, y, hy, hw⟩ := hw
    exact ⟨x.toInt, y.toInt, ⟨x, hx, rfl⟩, ⟨y, hy, rfl⟩, computes_ofInt_iff.1 ⟨w, hw, hn⟩⟩
  · intro h
    obtain ⟨x, y, ⟨v, hv, rfl⟩, ⟨w, hw, rfl⟩, hfits⟩ := h
    simp only [binary, Computes, hv, hw, Option.bind_some]
    -- Both words are there, so only the size of the result is left
    exact computes_ofInt_iff.2 hfits

-- The sum does not fit, and no later difference brings it back
example : (ofInt (2 ^ 63 - 1) + 1 - 1).word? = none := by decide

theorem computes_ofInt {n : Int} (h : FitsWord n) : (ofInt n).Computes n :=
  computes_ofInt_iff.2 ⟨h, rfl⟩

/-- An operation whose operands are there and whose result fits. -/
theorem Computes.binary {f : Int → Int → Int} {a b : Checked} {x y : Int} (ha : a.Computes x)
    (hb : b.Computes y) (h : FitsWord (f x y)) : (binary f a b).Computes (f x y) :=
  computes_binary_iff.2 ⟨x, y, ha, hb, h, rfl⟩

/-- Where nothing is negative, dropping the fraction rounds down. -/
theorem Computes.div {a b : Checked} {x y : Int} (ha : a.Computes x) (hb : b.Computes y)
    (h0 : 0 ≤ x) (h : FitsWord (x / y)) : (a / b).Computes (x / y) := by
  rw [← Int.tdiv_eq_ediv_of_nonneg h0] at h ⊢
  exact ha.binary hb h

@[inherit_doc Computes.div]
theorem Computes.mod {a b : Checked} {x y : Int} (ha : a.Computes x) (hb : b.Computes y)
    (h0 : 0 ≤ x) (h : FitsWord (x % y)) : (a % b).Computes (x % y) := by
  rw [← Int.tmod_eq_emod_of_nonneg h0] at h ⊢
  exact ha.binary hb h

/-! ## Day numbers -/

/-- The year that begins in March and has the month in it. -/
def marchYear (year : Checked) (month : Month) : Checked :=
  if month.number ≤ 2 then year - 1 else year

/-- Days since the first of March. -/
def dayOfMarchYear (month : Month) (day : Checked) : Checked :=
  (153 * ((ofInt month.number + 9) % 12) + 2) / 5 + day - 1

/-- Days since the period of 400 years began in which the year lies. -/
def dayOfEra (year dayOfYear : Checked) : Checked :=
  let yearOfEra := year - year.floorDiv 400 * 400
  yearOfEra * 365 + yearOfEra / 4 - yearOfEra / 100 + dayOfYear

@[inherit_doc TimePattern.dayNumber]
def dayNumber (year : Checked) (month : Month) (day : Checked) : Checked :=
  let year := marchYear year month
  year.floorDiv 400 * 146097 + dayOfEra year (dayOfMarchYear month day) - 719468

/-- The March year of a month, and a bound for it. -/
theorem marchYear_computes {year : Checked} {y : Int} (hyear : year.Computes y)
    (hy : y.natAbs ≤ 2 ^ 31) (month : Month) (d : Int) :
    (marchYear year month).Computes (MarchDate.ofCivil y month d).year ∧
      (MarchDate.ofCivil y month d).year.natAbs ≤ 2 ^ 32 := by
  simp only [marchYear, MarchDate.ofCivil]
  split
  · -- January and February belong to the March year before
    exact ⟨hyear.binary (computes_ofInt (by decide)) (by omega), by omega⟩
  · exact ⟨hyear, by omega⟩

/-- The day within the March year, and a bound for it. The day need not exist. -/
theorem dayOfMarchYear_computes {day : Checked} {d : Int} (hday : day.Computes d)
    (hd : d.natAbs ≤ 2 ^ 31) (month : Month) (y : Int) :
    (dayOfMarchYear month day).Computes (MarchDate.ofCivil y month d).dayOfYear ∧
      (MarchDate.ofCivil y month d).dayOfYear.natAbs ≤ 2 ^ 32 := by
  have hnumber := month.number_le
  -- Number of the month counted from March, then the days of the months before it. Neither is
  -- negative, so truncated division and floor division agree
  have hmonth : ((ofInt month.number + 9) % 12).Computes (((month.number : Int) + 9) % 12) :=
    ((computes_ofInt (by omega)).binary (computes_ofInt (by decide)) (by omega)).mod
      (computes_ofInt (by decide)) (by omega) (by omega)
  have hmonths : ((153 * ((ofInt month.number + 9) % 12) + 2) / 5).Computes
      ((153 * (((month.number : Int) + 9) % 12) + 2) / 5) :=
    (((computes_ofInt (by decide)).binary hmonth (by omega)).binary (computes_ofInt (by decide))
      (by omega)).div (computes_ofInt (by decide)) (by omega) (by omega)
  -- The first of the month is counted as day 0, and here the 1 comes off at the end
  have hdayOfYear : (MarchDate.ofCivil y month d).dayOfYear =
      (153 * (((month.number : Int) + 9) % 12) + 2) / 5 + d - 1 := by
    simp only [MarchDate.dayOfYear, MarchDate.ofCivil]
    omega
  rw [hdayOfYear]
  exact ⟨(hmonths.binary hday (by omega)).binary (computes_ofInt (by decide)) (by omega), by omega⟩

/-- The day within the period of 400 years, and a bound for it. -/
theorem dayOfEra_computes {year dayOfYear : Checked} {m : MarchDate} (hyear : year.Computes m.year)
    (hdays : dayOfYear.Computes m.dayOfYear) (hyearLe : m.year.natAbs ≤ 2 ^ 32)
    (hdaysLe : m.dayOfYear.natAbs ≤ 2 ^ 32) :
    (dayOfEra year dayOfYear).Computes m.dayOfEra ∧ m.dayOfEra.natAbs ≤ 2 ^ 33 := by
  -- The era of a negative year needs the division that rounds down
  have hera : (year.floorDiv 400).Computes (m.year / 400) :=
    hyear.binary (computes_ofInt (by decide)) (by omega)
  have hyearOfEra : (year - year.floorDiv 400 * 400).Computes (m.year - m.year / 400 * 400) :=
    hyear.binary (hera.binary (computes_ofInt (by decide)) (by omega)) (by omega)
  have hmem : 0 ≤ m.year - m.year / 400 * 400 ∧ m.year - m.year / 400 * 400 < 400 := by omega
  -- From here on only the size of the year of the era matters
  simp only [dayOfEra, MarchDate.dayOfEra, MarchDate.yearOfEra, MarchDate.era]
  generalize year - year.floorDiv 400 * 400 = yearOfEra at hyearOfEra ⊢
  generalize m.year - m.year / 400 * 400 = n at hyearOfEra hmem ⊢
  -- 365 days for each year, one more for every fourth, one less for every hundredth
  have hdaysOfYears : (yearOfEra * 365).Computes (n * 365) :=
    hyearOfEra.binary (computes_ofInt (by decide)) (by omega)
  have hfourths : (yearOfEra / 4).Computes (n / 4) :=
    hyearOfEra.div (computes_ofInt (by decide)) hmem.1 (by omega)
  have hcenturies : (yearOfEra / 100).Computes (n / 100) :=
    hyearOfEra.div (computes_ofInt (by decide)) hmem.1 (by omega)
  exact ⟨((hdaysOfYears.binary hfourths (by omega)).binary hcenturies (by omega)).binary hdays
    (by omega), by omega⟩

/-- Days of all years of 32 bits have their numbers in words. -/
theorem dayNumber_computes {year day : Checked} {y d : Int} (hyear : year.Computes y)
    (hday : day.Computes d) (hy : y.natAbs ≤ 2 ^ 31) (hd : d.natAbs ≤ 2 ^ 31) (month : Month) :
    (dayNumber year month day).Computes (TimePattern.dayNumber y month d) := by
  obtain ⟨hmarch, hmarchLe⟩ := marchYear_computes hyear hy month d
  obtain ⟨hdays, hdaysLe⟩ := dayOfMarchYear_computes hday hd month y
  obtain ⟨hdayOfEra, hdayOfEraLe⟩ := dayOfEra_computes hmarch hdays hmarchLe hdaysLe
  -- Years of 32 bits lie in few enough eras for all of their days to fit
  simp only [dayNumber, TimePattern.dayNumber, MarchDate.dayNumber, MarchDate.era]
  have hera : ((marchYear year month).floorDiv 400).Computes
      ((MarchDate.ofCivil y month d).year / 400) :=
    hmarch.binary (computes_ofInt (by decide)) (by omega)
  exact ((hera.binary (computes_ofInt (by decide)) (by omega)).binary hdayOfEra (by omega)).binary
    (computes_ofInt (by decide)) (by omega)

/-- The same where the year is a field of a date and the day is at most 255. -/
theorem dayNumber_computes_of_year (year : Int32) (month : Month) {day : Checked} {d : Int}
    (hday : day.Computes d) (hd : d.natAbs ≤ 255) :
    (dayNumber (ofInt year.toInt) month day).Computes
      (TimePattern.dayNumber year.toInt month d) := by
  have hlo := year.le_toInt
  have hhi := year.toInt_lt
  exact dayNumber_computes (computes_ofInt (by omega)) hday (by omega) (by omega) month

end Checked

/-! ## Dates -/

/-- The first of January lies at most so many days from 1970. -/
theorem dayNumber_january_natAbs_le (year : Int32) :
    (dayNumber year.toInt .january 1).natAbs ≤ 790000000000 := by
  have hlo := year.le_toInt
  have hhi := year.toInt_lt
  -- 365 days a year, and nearly a quarter of a day for leap years
  rw [dayNumber_january, leapDays]
  omega

/-- A date lies no more than 800000000000 days from 1970. -/
theorem Date.epochDay_natAbs_le (d : Date) : d.epochDay.natAbs ≤ 800000000000 := by
  have hyear := dayNumber_january_natAbs_le d.year
  have hmonth := d.month.daysBefore_add_length_le d.year.toInt
  have hlength := yearLength_le d.year.toInt
  have hday := d.day.toNat_lt
  -- The first of January of the year, plus at most a year, plus a day field of 8 bits
  rw [epochDay_eq, dayNumber_eq_daysBefore]
  omega

namespace Checked

@[inherit_doc Date.epochDay]
def epochDay (d : Date) : Checked :=
  dayNumber (ofInt d.year.toInt) d.month 1 + ofInt d.day.toNat - 1

@[inherit_doc Date.dayOfYear]
def dayOfYear (d : Date) : Checked :=
  epochDay d - dayNumber (ofInt d.year.toInt) .january 1 + 1

theorem epochDay_computes (d : Date) : (epochDay d).Computes d.epochDay := by
  have hle := d.epochDay_natAbs_le
  have hday := d.day.toNat_lt
  have hfirst : (dayNumber (ofInt d.year.toInt) d.month 1).Computes
      (TimePattern.dayNumber d.year.toInt d.month 1) :=
    dayNumber_computes_of_year d.year d.month (computes_ofInt (by decide)) (by decide)
  -- The number of the first of the month is as good as bounded by that of the date
  rw [Date.epochDay] at hle
  exact (hfirst.binary (computes_ofInt (by omega)) (by omega)).binary (computes_ofInt (by decide))
    (by omega)

theorem dayOfYear_computes (d : Date) : (dayOfYear d).Computes d.dayOfYear := by
  have hle := d.epochDay_natAbs_le
  have hyear := dayNumber_january_natAbs_le d.year
  -- The first of January has a word of its own, and the difference is bounded by both
  have hfirst : (dayNumber (ofInt d.year.toInt) .january 1).Computes
      (TimePattern.dayNumber d.year.toInt .january 1) :=
    dayNumber_computes_of_year d.year .january (computes_ofInt (by decide)) (by decide)
  exact ((epochDay_computes d).binary hfirst (by omega)).binary (computes_ofInt (by decide))
    (by omega)

end Checked

/-! ## Times and stamps -/

/-- The three fields of a time have 8 bits each. -/
theorem TimeOfDay.secondsOfDay_nonneg_le (t : TimeOfDay) :
    0 ≤ t.secondsOfDay ∧ t.secondsOfDay ≤ 933555 := by
  -- Each field may be up to 255
  have hhour := t.hour.toNat_lt
  have hminute := t.minute.toNat_lt
  have hsecond := t.second.toNat_lt
  rw [secondsOfDay]
  omega

namespace Checked

@[inherit_doc TimeOfDay.secondsOfDay]
def secondsOfDay (t : TimeOfDay) : Checked :=
  ofInt t.hour.toNat * 3600 + ofInt t.minute.toNat * 60 + ofInt t.second.toNat

@[inherit_doc Stamp.epochSeconds]
def epochSeconds (s : Stamp) : Checked :=
  epochDay s.date * 86400 + secondsOfDay s.time - ofInt s.offsetMinutes.toInt * 60

theorem secondsOfDay_computes (t : TimeOfDay) : (secondsOfDay t).Computes t.secondsOfDay := by
  have hhour := t.hour.toNat_lt
  have hminute := t.minute.toNat_lt
  have hsecond := t.second.toNat_lt
  have hhours : (ofInt t.hour.toNat * 3600).Computes (t.hour.toNat * 3600) :=
    (computes_ofInt (by omega)).binary (computes_ofInt (by decide)) (by omega)
  have hminutes : (ofInt t.minute.toNat * 60).Computes (t.minute.toNat * 60) :=
    (computes_ofInt (by omega)).binary (computes_ofInt (by decide)) (by omega)
  exact (hhours.binary hminutes (by omega)).binary (computes_ofInt (by omega)) (by omega)

/-- The epoch seconds of a stamp, whatever its fields are. -/
theorem epochSeconds_computes (s : Stamp) : (epochSeconds s).Computes s.epochSeconds := by
  -- A bound for each summand, then the operations in their order
  have hday := s.date.epochDay_natAbs_le
  have hseconds := s.time.secondsOfDay_nonneg_le
  have hlo := s.offsetMinutes.le_toInt
  have hhi := s.offsetMinutes.toInt_lt
  have hdays : (epochDay s.date * 86400).Computes (s.date.epochDay * 86400) :=
    (epochDay_computes s.date).binary (computes_ofInt (by decide)) (by omega)
  have hoffset : (ofInt s.offsetMinutes.toInt * 60).Computes (s.offsetMinutes.toInt * 60) :=
    (computes_ofInt (by omega)).binary (computes_ofInt (by decide)) (by omega)
  exact (hdays.binary (secondsOfDay_computes s.time) (by omega)).binary hoffset (by omega)

end Checked

/-- Epoch seconds need 57 bits with the sign. -/
theorem Stamp.epochSeconds_natAbs_lt (s : Stamp) : s.epochSeconds.natAbs < 2 ^ 56 := by
  have hday := s.date.epochDay_natAbs_le
  have hseconds := s.time.secondsOfDay_nonneg_le
  have hlo := s.offsetMinutes.le_toInt
  have hhi := s.offsetMinutes.toInt_lt
  rw [epochSeconds]
  omega

/-- Whatever the fields of a stamp are, no step of its calendar arithmetic leaves the words of 64
    bits, and its epoch seconds stay far inside them. -/
theorem Stamp.arithmetic_fits_words (s : Stamp) :
    (∀ (month : Month) (day : UInt8),
      (Checked.dayNumber (.ofInt s.date.year.toInt) month (.ofInt day.toNat)).Computes
        (dayNumber s.date.year.toInt month day.toNat)) ∧
      (Checked.epochDay s.date).Computes s.date.epochDay ∧
      (Checked.dayOfYear s.date).Computes s.date.dayOfYear ∧
      (Checked.secondsOfDay s.time).Computes s.time.secondsOfDay ∧
      (Checked.epochSeconds s).Computes s.epochSeconds ∧
      s.epochSeconds.natAbs < 2 ^ 56 := by
  -- Day numbers for any day of 8 bits, and the rest for the stamp itself
  refine ⟨?_, Checked.epochDay_computes s.date, Checked.dayOfYear_computes s.date,
    Checked.secondsOfDay_computes s.time, Checked.epochSeconds_computes s,
    s.epochSeconds_natAbs_lt⟩
  intro month day
  have hday := day.toNat_lt
  exact Checked.dayNumber_computes_of_year s.date.year month (Checked.computes_ofInt (by omega))
    (by omega)

end TimePattern
