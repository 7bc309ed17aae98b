import TimePattern.Calendar.Gregorian

/-!
# Calendar dates

A `Date` carries its fields as given: a day of 0 or the 31st of February is a date like any
other, and `epochDay` counts such a day on into the neighbouring month. `IsReal` tells the
dates that a calendar shows.
-/

namespace TimePattern

/-- A year, a month and a day of the month. The day is not checked against the month. -/
structure Date where
  year : Int32
  month : Month
  day : UInt8
  deriving DecidableEq

namespace Date

/-- Where reading starts: no day of January of year 0. -/
instance : Inhabited Date := ⟨0, .january, 0⟩

/-- Days since 1970-01-01. -/
def epochDay (d : Date) : Int :=
  dayNumber d.year.toInt d.month 1 + d.day.toNat - 1

/-- The day of the year, counted from one. -/
def dayOfYear (d : Date) : Int :=
  d.epochDay - dayNumber d.year.toInt .january 1 + 1

/-- Whether the day lies inside its month. -/
def IsReal (d : Date) : Prop :=
  1 ≤ d.day.toNat ∧ d.day.toNat ≤ d.month.length d.year.toInt

instance (d : Date) : Decidable d.IsReal := inferInstanceAs (Decidable (_ ∧ _))

/-- The first and the last year whose dates have a place on the time line. -/
def firstYear : Int := -262143

@[inherit_doc firstYear]
def lastYear : Int := 262142

/-- The date of a day that lies in the years from `firstYear` to `lastYear`. -/
def ofEpochDay (n : Int) : Date :=
  let d := MarchDate.ofDayNumber n
  { year := Int32.ofInt d.civilYear, month := d.civilMonth, day := UInt8.ofNat d.civilDay.toNat }

end Date

end TimePattern
