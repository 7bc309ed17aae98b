import TimePattern.Proofs.Calendar.CivilTime
import TimePattern.Proofs.Field.OffsetText
import TimePattern.Proofs.Reading.Finds

/-!
# The range of what is read

The readers of fixed fields bound what can be found in them, whatever the text. A stamp that was
read with built-in directives therefore has no negative year, no part of more than two digits
besides year and offset, and no fraction of a second.

## Key results

- `offsetColon_natAbs_le` / `offsetCompact_natAbs_le`: offsets of hours and minutes
- `Directive.Finds.within`: what one directive finds is in range
- `readFrom_within`: so is what directives read one after the other
-/

namespace TimePattern

namespace Field

/-- A number of so many digits is less than that power of ten. -/
theorem fixedDigits_lt {count n : Nat} {text rest : List Char}
    (h : fixedDigits count text = some (n, rest)) : n < 10 ^ count := by
  obtain ⟨digits, -, hdigits, rfl, -, rfl, -⟩ := fixedDigits_eq_some_iff.1 h
  exact Decimal.value_lt hdigits

theorem shortDigits_lt {n : Nat} {text rest : List Char}
    (h : shortDigits text = some (n, rest)) : n < 100 := by
  obtain ⟨digits, -, hdigits, hlen, rfl⟩ := shortDigits_eq_some_iff.1 h
  have hvalue := Decimal.value_lt hdigits
  rcases hlen with hlen | ⟨hlen, -⟩ <;> rw [hlen] at hvalue <;> omega

/-- A run of digits is within its limit. -/
theorem boundedRun_le {limit n : Nat} {text rest : List Char}
    (h : boundedRun limit text = some (n, rest)) : n ≤ limit := by
  obtain ⟨digits, -, -, -, -, -, hle⟩ := boundedRun_eq_some_iff.1 h
  exact hle

/-- Two digits are years of the hundred from 1970 on. -/
theorem yearTwoDigit_bounds {n : Nat} {text rest : List Char}
    (h : yearTwoDigit text = some (n, rest)) : 1970 ≤ n ∧ n < 2070 := by
  simp only [yearTwoDigit, Option.map_eq_some_iff, Prod.mk.injEq] at h
  obtain ⟨⟨m, rest'⟩, hread, rfl, -⟩ := h
  have hlt := fixedDigits_lt hread
  unfold yearOfTwoDigits
  -- Up to 69 the years are those after 2000
  split <;> omega

/-- Two digits of hours and two of minutes make at most 99 hours and 99 minutes. -/
theorem OffsetText.natAbs_le {separator text : List Char} {m : Int}
    (h : OffsetText separator m text) : m.natAbs ≤ 6039 := by
  obtain ⟨negative, -, hours, minutes, -, hhours, hminutes, -, rfl⟩ := h
  have hhours := hhours.value_lt
  have hminutes := hminutes.value_lt
  -- The sign does not matter for the size
  rw [natAbs_signed]
  omega

theorem offsetColon_natAbs_le {m : Int} {text rest : List Char}
    (h : offsetColon text = some (m, rest)) : m.natAbs ≤ 6039 := by
  obtain ⟨taken, hm, -⟩ := offsetColon_eq_some_iff.1 h
  exact hm.natAbs_le

theorem offsetCompact_natAbs_le {m : Int} {text rest : List Char}
    (h : offsetCompact text = some (m, rest)) : m.natAbs ≤ 6039 := by
  obtain ⟨taken, hm, -⟩ := offsetCompact_eq_some_iff.1 h
  exact hm.natAbs_le

/-- An offset in minutes is read as a number of 31 bits behind its sign. -/
theorem offsetMinutes_natAbs_le {m : Int} {text rest : List Char}
    (h : offsetMinutes text = some (m, rest)) : m.natAbs ≤ 2147483647 := by
  obtain ⟨taken, hm, -⟩ := offsetMinutes_eq_some_iff.1 h
  obtain ⟨negative, -, digits, -, -, -, hle, -, rfl⟩ := hm
  rw [natAbs_signed]
  exact hle

end Field

/-! ## Stamps in range -/

/-- No part of the stamp is larger than what its digits hold. -/
structure Stamp.Within (maxYear maxOffset : Nat) (s : Stamp) : Prop where
  year_nonneg : 0 ≤ s.date.year.toInt
  year_le : s.date.year.toInt ≤ maxYear
  day_le : s.date.day.toNat ≤ 99
  hour_le : s.time.hour.toNat ≤ 99
  minute_le : s.time.minute.toNat ≤ 99
  second_le : s.time.second.toNat ≤ 99
  nanosecond_eq : s.time.nanosecond = 0
  offset_le : s.offsetMinutes.toInt.natAbs ≤ maxOffset

/-- The finding keeps a stamp in range. -/
def Update.Within (maxYear maxOffset : Nat) : Update → Prop
  | nothing | month _ => True
  | year y => 0 ≤ y.toInt ∧ y.toInt ≤ maxYear
  | day d => d.toNat ≤ 99
  | hour h => h.toNat ≤ 99
  | minute m => m.toNat ≤ 99
  | second s => s.toNat ≤ 99
  | dateAndTime date time =>
    0 ≤ date.year.toInt ∧ date.year.toInt ≤ maxYear ∧ date.IsReal ∧ time.IsWhole
  | offset m => m.toInt.natAbs ≤ maxOffset

/-- The stamp that reading starts from is in range. -/
theorem Stamp.within_default (maxYear maxOffset : Nat) :
    (default : Stamp).Within maxYear maxOffset := by
  refine ⟨?_, ?_, ?_, ?_, ?_, ?_, rfl, ?_⟩ <;> simp [default]

/-- Putting a finding in range into a stamp in range keeps it there. -/
theorem Update.Within.apply {maxYear maxOffset : Nat} {u : Update} (hu : u.Within maxYear maxOffset)
    {s : Stamp} (hs : s.Within maxYear maxOffset) : (u.apply s).Within maxYear maxOffset := by
  obtain ⟨hyear0, hyear, hday, hhour, hminute, hsecond, hnano, hoffset⟩ := hs
  cases u with
  | nothing => exact ⟨hyear0, hyear, hday, hhour, hminute, hsecond, hnano, hoffset⟩
  | year y => exact ⟨hu.1, hu.2, hday, hhour, hminute, hsecond, hnano, hoffset⟩
  | month m => exact ⟨hyear0, hyear, hday, hhour, hminute, hsecond, hnano, hoffset⟩
  | day d => exact ⟨hyear0, hyear, hu, hhour, hminute, hsecond, hnano, hoffset⟩
  | hour h => exact ⟨hyear0, hyear, hday, hu, hminute, hsecond, hnano, hoffset⟩
  | minute m => exact ⟨hyear0, hyear, hday, hhour, hu, hsecond, hnano, hoffset⟩
  | second sec => exact ⟨hyear0, hyear, hday, hhour, hminute, hu, hnano, hoffset⟩
  | dateAndTime date time =>
    -- A real date and a time of day are in range by far
    obtain ⟨hyear0, hyear, ⟨-, hlen⟩, hh, hm, hs, hn⟩ := hu
    have hmonth := date.month.length_le date.year.toInt
    refine ⟨hyear0, hyear, ?_, ?_, ?_, ?_, hn, hoffset⟩ <;> dsimp only [Update.apply] <;> omega
  | offset m => exact ⟨hyear0, hyear, hday, hhour, hminute, hsecond, hnano, hu⟩

/-! ## Numbers that fit -/

/-- Two digits fit 8 bits. -/
theorem toNat_uint8_ofNat {n : Nat} (h : n < 100) : (UInt8.ofNat n).toNat = n := by
  rw [UInt8.toNat_ofNat']
  omega

/-- A number of 31 bits keeps its value in a field with a sign. -/
theorem toInt_int32_ofNat {n : Nat} (h : n ≤ 2147483647) : (Int32.ofNat n).toInt = n :=
  Int32.toInt_ofNat_of_lt (by omega)

theorem toInt_int32_ofInt {m : Int} (h : m.natAbs ≤ 2147483647) : (Int32.ofInt m).toInt = m :=
  Int32.toInt_ofInt_of_le (by omega) (by omega)

/-! ## Findings -/

/-- A year that was read as a number of 31 bits is stored without a change of sign. -/
theorem Update.ofYear_within {n maxYear : Nat} (h : n ≤ maxYear) (hn : n ≤ 2147483647)
    (maxOffset : Nat) : (Update.ofYear n).Within maxYear maxOffset := by
  simp only [ofYear, Within, toInt_int32_ofNat hn]
  omega

theorem Update.ofOffset_within {m : Int} {maxOffset : Nat} (h : m.natAbs ≤ maxOffset)
    (hm : m.natAbs ≤ 2147483647) (maxYear : Nat) :
    (Update.ofOffset m).Within maxYear maxOffset := by
  simp only [ofOffset, Within, toInt_int32_ofInt hm]
  exact h

/-- Seconds since 1970 give a real date of the years up to the end of the time line. -/
theorem Update.ofEpochSeconds_within {n maxYear maxOffset : Nat} (hmax : 262142 ≤ maxYear)
    {u : Update} (h : Update.ofEpochSeconds n = .ok u) : u.Within maxYear maxOffset := by
  obtain ⟨date, time, hcivil, rfl⟩ := ofEpochSeconds_eq_ok_iff.1 h
  obtain ⟨hreal, hwhole, -, hlast, hn⟩ := civilOfEpochSeconds?_eq_some_iff.1 hcivil
  obtain ⟨h0, hlt⟩ := TimeOfDay.secondsOfDay_bounds hwhole
  -- Numbers that are read have no sign, so the day is not before 1970
  have hstart : dayNumber 1970 .january 1 = 0 := by decide
  have hyear := (Date.january_le_epochDay_iff hreal 1970).1 (by omega)
  simp only [Date.lastYear] at hlast
  exact ⟨by omega, by omega, hreal, hwhole⟩

namespace Directive

/-- The directive is built in, and if it can find a year or an offset of any length, then the
    bounds leave room for it. -/
def Bounded (maxYear maxOffset : Nat) : Directive → Prop
  | year => 2147483647 ≤ maxYear
  | offsetMinutes => 2147483647 ≤ maxOffset
  | custom _ => False
  | _ => True

variable {maxYear maxOffset : Nat}

/-- What a directive finds is in range. -/
theorem Finds.within (hyear : 262142 ≤ maxYear) (hoffset : 6039 ≤ maxOffset) {d : Directive}
    (hd : d.Bounded maxYear maxOffset) {text rest : List Char} {u : Update}
    (h : d.Finds text u rest) : u.Within maxYear maxOffset := by
  -- By the bound of the field reader and the room that the stamp has
  cases d with
  | year =>
    obtain ⟨n, hfield, hu⟩ := exists_of_finds rfl h
    cases hu
    have hle := Field.boundedRun_le hfield
    exact Update.ofYear_within (Nat.le_trans hle hd) hle maxOffset
  | year4 =>
    obtain ⟨n, hfield, hu⟩ := exists_of_finds rfl h
    cases hu
    have hlt := Field.fixedDigits_lt hfield
    exact Update.ofYear_within (by omega) (by omega) maxOffset
  | year2 =>
    obtain ⟨n, hfield, hu⟩ := exists_of_finds rfl h
    cases hu
    have hlt := Field.yearTwoDigit_bounds hfield
    exact Update.ofYear_within (by omega) (by omega) maxOffset
  | month | month2 | literal c =>
    obtain ⟨n, hfield, hu⟩ := exists_of_finds rfl h
    cases hu
    trivial
  | day =>
    obtain ⟨n, hfield, hu⟩ := exists_of_finds rfl h
    cases hu
    have hlt := Field.shortDigits_lt hfield
    exact Nat.le_trans (Nat.le_of_eq (toNat_uint8_ofNat hlt)) (Nat.le_of_lt_succ hlt)
  | day2 | hour | minute | second =>
    obtain ⟨n, hfield, hu⟩ := exists_of_finds rfl h
    cases hu
    have hlt := Field.fixedDigits_lt hfield
    exact Nat.le_trans (Nat.le_of_eq (toNat_uint8_ofNat hlt)) (Nat.le_of_lt_succ hlt)
  | unixSecond =>
    obtain ⟨n, hfield, hu⟩ := exists_of_finds rfl h
    exact Update.ofEpochSeconds_within hyear hu
  | offsetColon =>
    obtain ⟨m, hfield, hu⟩ := exists_of_finds rfl h
    cases hu
    have hle := Field.offsetColon_natAbs_le hfield
    exact Update.ofOffset_within (by omega) (by omega) maxYear
  | offsetCompact =>
    obtain ⟨m, hfield, hu⟩ := exists_of_finds rfl h
    cases hu
    have hle := Field.offsetCompact_natAbs_le hfield
    exact Update.ofOffset_within (by omega) (by omega) maxYear
  | offsetMinutes =>
    obtain ⟨m, hfield, hu⟩ := exists_of_finds rfl h
    cases hu
    have hle := Field.offsetMinutes_natAbs_le hfield
    exact Update.ofOffset_within (Nat.le_trans hle hd) hle maxYear
  | monthShort | dayOfYear | zoneName | space | custom d =>
    obtain ⟨scan, hscan, -⟩ := h
    cases hscan

theorem Bounded.not_custom {d : Directive} (hd : d.Bounded maxYear maxOffset) :
    d.isCustom = false := by
  cases d
  case custom => exact absurd hd id
  all_goals rfl

end Directive

variable {maxYear maxOffset : Nat}

/-- What directives read one after the other stays in range. -/
theorem readFrom_within (hyear : 262142 ≤ maxYear) (hoffset : 6039 ≤ maxOffset)
    {ds : List Directive} (hds : ∀ d ∈ ds, d.Bounded maxYear maxOffset) {soFar : Stamp}
    (hs : soFar.Within maxYear maxOffset) {text : List Char} {r : Reading}
    (h : readFrom soFar text ds = .ok r) : r.stamp.Within maxYear maxOffset := by
  -- The invariant is that `soFar` is in range, and each finding keeps it there
  induction ds generalizing soFar text with
  | nil =>
    cases h
    exact hs
  | cons d ds ih =>
    have hd := hds d List.mem_cons_self
    obtain ⟨u, rest, hfinds, h⟩ := (readFrom_cons_eq_ok_iff hd.not_custom).1 h
    have hfound := (hfinds.within hyear hoffset hd).apply hs
    exact ih (fun e he => hds e (List.mem_cons_of_mem d he)) hfound h

end TimePattern
