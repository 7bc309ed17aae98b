import Mathlib.Algebra.GroupWithZero.Nat
import Mathlib.Algebra.Order.BigOperators.Group.List
import Mathlib.Algebra.Order.Group.Nat
import TimePattern.Proofs.Calendar.Ticking
import TimePattern.Proofs.Text.Lexicographic

/-!
# Stamps in the order of time

A real date and a time of day come before others if the largest field in which they differ is
smaller. The epoch seconds of stamps with one offset follow this order of the fields.

## Key results

- `Date.sameOrder_fields`: day numbers of real dates
- `TimeOfDay.sameOrder_fields`: seconds of a day
- `Stamp.sameOrder_fields`: epoch seconds of stamps
- `Stamp.epochSeconds_lt_iff`: the same for the fields one by one
-/

namespace TimePattern

/-! ## Dates -/

/-- The count of days before a month, as a sum over a list. -/
theorem Month.daysBefore_eq_sum (year : Int) (m : Month) :
    m.daysBefore year = ((all.take m.ordinal).map (length year)).sum := by
  rw [daysBefore, List.sum_eq_foldl, List.foldl_map]

/-- A month is over before a later month of the year begins. -/
theorem Month.daysBefore_add_length_le_daysBefore (year : Int) {m m' : Month}
    (h : m.ordinal < m'.ordinal) : m.daysBefore year + m.length year ≤ m'.daysBefore year := by
  -- Months up to and with this one are months before the later one
  have htake : all.take (m.ordinal + 1) = all.take m.ordinal ++ [m] := by
    cases m <;> rfl
  have hover : m.daysBefore year + m.length year =
      ((all.take (m.ordinal + 1)).map (length year)).sum := by
    simp [daysBefore_eq_sum, htake]
  have hfront : all.take (m.ordinal + 1) <+: all.take m'.ordinal := List.take_prefix_take_left h
  rw [hover, daysBefore_eq_sum]
  exact (hfront.sublist.map _).sum_le_sum fun _ _ => Nat.zero_le _

/-- Different months have different numbers. -/
theorem Month.number_inj {m m' : Month} : m.number = m'.number ↔ m = m' := by
  constructor
  · intro h
    rw [← ofOrdinal_ordinal m, ← ofOrdinal_ordinal m', Nat.succ.inj h]
  · intro h
    rw [h]

namespace Date

/-- The fields, from the largest to the smallest. -/
def fields (d : Date) : List Int := [d.year.toInt, d.month.number, d.day.toNat]

@[simp] theorem length_fields (d : Date) : d.fields.length = 3 := rfl

/-- A date is known from its fields. -/
theorem fields_inj {d e : Date} : d.fields = e.fields ↔ d = e := by
  obtain ⟨year, month, day⟩ := d
  obtain ⟨year', month', day'⟩ := e
  simp only [fields, List.cons.injEq, and_true, Int32.toInt_inj, Int.ofNat_inj, Month.number_inj,
    UInt8.toNat_inj, mk.injEq]

/-- A date of an earlier year has a smaller number. -/
theorem epochDay_lt_of_year_lt {d e : Date} (hd : d.IsReal) (he : e.IsReal)
    (h : d.year.toInt < e.year.toInt) : d.epochDay < e.epochDay := by
  -- The first of January of the later year lies between the two dates
  have hbefore := mt (january_le_epochDay_iff hd e.year.toInt).1 (by omega)
  have hafter := (january_le_epochDay_iff he e.year.toInt).2 (Int.le_refl _)
  omega

/-- In one year, a date of an earlier month has a smaller number. -/
theorem epochDay_lt_of_month_lt {d e : Date} (hd : d.IsReal) (he : e.IsReal)
    (hyear : d.year.toInt = e.year.toInt) (h : d.month.number < e.month.number) :
    d.epochDay < e.epochDay := by
  have hmonths := Month.daysBefore_add_length_le_daysBefore d.year.toInt (Nat.lt_of_succ_lt_succ h)
  have hlast := hd.2
  have hfirst := he.1
  -- A real day lies within its month, so the whole month of the one is over before the other begins
  rw [epochDay_eq_daysBefore, epochDay_eq_daysBefore, ← hyear]
  omega

/-- Day numbers of real dates compare as the fields of the dates do. -/
theorem sameOrder_fields {d e : Date} (hd : d.IsReal) (he : e.IsReal) :
    SameOrder d.epochDay e.epochDay d.fields e.fields := by
  unfold fields
  apply SameOrder.cons
  · exact epochDay_lt_of_year_lt hd he
  · exact epochDay_lt_of_year_lt he hd
  intro hyear
  apply SameOrder.cons
  · exact fun h => epochDay_lt_of_month_lt hd he hyear (Int.ofNat_lt.1 h)
  · exact fun h => epochDay_lt_of_month_lt he hd hyear.symm (Int.ofNat_lt.1 h)
  intro hmonth
  -- Only the days of one month are left
  have hmonth' := Month.number_inj.1 (Int.ofNat_inj.1 hmonth)
  rw [epochDay, epochDay, hyear, hmonth']
  apply SameOrder.cons
  · omega
  · omega
  · intro hday
    exact .nil (by rw [hday])

end Date

/-! ## Times of day -/

namespace TimeOfDay

@[inherit_doc Date.fields]
def fields (t : TimeOfDay) : List Int := [t.hour.toNat, t.minute.toNat, t.second.toNat]

/-- Fields of times are the same just if hour, minute and second are. Nanoseconds do not count. -/
theorem fields_eq_iff {t u : TimeOfDay} :
    t.fields = u.fields ↔ t.hour = u.hour ∧ t.minute = u.minute ∧ t.second = u.second := by
  simp only [fields, List.cons.injEq, and_true, Int.ofNat_inj, UInt8.toNat_inj]

/-- Seconds of a day compare as the fields of the times do. -/
theorem sameOrder_fields {t u : TimeOfDay} (ht : t.InDay) (hu : u.InDay) :
    SameOrder t.secondsOfDay u.secondsOfDay t.fields u.fields := by
  obtain ⟨-, hminute, hsecond⟩ := ht
  obtain ⟨-, hminute', hsecond'⟩ := hu
  -- Minutes and seconds stay below 60, so they never make up for an hour or a minute
  unfold secondsOfDay fields
  apply SameOrder.cons
  · omega
  · omega
  intro hhour
  apply SameOrder.cons
  · omega
  · omega
  intro hmin
  apply SameOrder.cons
  · omega
  · omega
  · intro hsec
    exact .nil (by rw [hhour, hmin, hsec])

end TimeOfDay

/-! ## Stamps -/

namespace Stamp

/-- The date is one of the calendar, and the time one of a day without leap seconds. -/
structure IsCivil (s : Stamp) : Prop where
  date_isReal : s.date.IsReal
  time_inDay : s.time.InDay

@[inherit_doc Date.fields]
def fields (s : Stamp) : List Int := s.date.fields ++ s.time.fields

/-- Epoch seconds of stamps with one offset compare as the fields of the stamps do. -/
theorem sameOrder_fields {s t : Stamp} (hs : s.IsCivil) (ht : t.IsCivil)
    (hoffset : s.offsetMinutes = t.offsetMinutes) :
    SameOrder s.epochSeconds t.epochSeconds s.fields t.fields := by
  obtain ⟨hdate, hdate'⟩ := Date.sameOrder_fields hs.date_isReal ht.date_isReal
  obtain ⟨htime, htime'⟩ := TimeOfDay.sameOrder_fields hs.time_inDay ht.time_inDay
  obtain ⟨hlo, hhi⟩ := hs.time_inDay.secondsOfDay_bounds
  obtain ⟨hlo', hhi'⟩ := ht.time_inDay.secondsOfDay_bounds
  have hlen : s.date.fields.length = t.date.fields.length := by simp
  rw [epochSeconds, epochSeconds, fields, fields, hoffset]
  -- A second of an earlier day comes before all seconds of a later one
  constructor
  · rw [append_lt_append_iff hlen, ← hdate, ← hdate', ← htime]
    omega
  · rw [List.append_eq_append_iff_of_size_eq_left hlen, ← hdate', ← htime']
    omega

/-- Of two civil stamps with one offset the one with the lexicographically smaller fields has fewer
    epoch seconds, and they have the same just if year, month, day, hour, minute and second are the
    same. -/
theorem epochSeconds_lt_iff {s t : Stamp} (hs : s.IsCivil) (ht : t.IsCivil)
    (hoffset : s.offsetMinutes = t.offsetMinutes) :
    (s.epochSeconds < t.epochSeconds ↔ s.fields < t.fields) ∧
      (s.epochSeconds = t.epochSeconds ↔
        s.date = t.date ∧ s.time.hour = t.time.hour ∧ s.time.minute = t.time.minute ∧
          s.time.second = t.time.second) := by
  obtain ⟨hlt, heq⟩ := sameOrder_fields hs ht hoffset
  have hlen : s.date.fields.length = t.date.fields.length := by simp
  refine ⟨hlt, ?_⟩
  -- Lists of fields are equal just if the fields are
  rw [heq, fields, fields, List.append_eq_append_iff_of_size_eq_left hlen, Date.fields_inj,
    TimeOfDay.fields_eq_iff]

/-- The last second before year 0 and the first second of it. -/
theorem epochSeconds_lt_iff_newYear :
    let s : Stamp := ⟨⟨-1, .december, 31⟩, ⟨23, 59, 59, 999999999⟩, 345⟩
    let t : Stamp := ⟨⟨0, .january, 1⟩, ⟨0, 0, 0, 0⟩, 345⟩
    s.IsCivil ∧ t.IsCivil ∧ s.offsetMinutes = t.offsetMinutes ∧
      (s.epochSeconds < t.epochSeconds ↔ s.fields < t.fields) ∧
      (s.epochSeconds = t.epochSeconds ↔
        s.date = t.date ∧ s.time.hour = t.time.hour ∧ s.time.minute = t.time.minute ∧
          s.time.second = t.time.second) :=
  have hs : IsCivil ⟨⟨-1, .december, 31⟩, ⟨23, 59, 59, 999999999⟩, 345⟩ := ⟨by decide, by decide⟩
  have ht : IsCivil ⟨⟨0, .january, 1⟩, ⟨0, 0, 0, 0⟩, 345⟩ := ⟨by decide, by decide⟩
  ⟨hs, ht, rfl, epochSeconds_lt_iff hs ht rfl⟩

end Stamp

end TimePattern
