import TimePattern.Calendar.Date
import TimePattern.Calendar.TimeOfDay

/-!
# Clock readings

What a calendar clock shows, held as seconds on one line that has no leap seconds: a leap second
is a fraction of a second or more on top of the second before it. The line covers the years from
`Date.firstYear` to `Date.lastYear`. Its days are counted by years and days of the year.

* `ofFields?`    the reading with given calendar fields, if there is one
* `shift?`       the reading some seconds later, if it is still on the line
* `toDate`, `toTime`  the fields again
-/

namespace TimePattern

/-- A point in time as a clock shows it, to the nanosecond. -/
structure ClockReading where
  /-- Whole seconds since 1970-01-01T00:00:00. -/
  seconds : Int
  /-- Nanoseconds since then; `10⁹` and more during a leap second. -/
  nanoseconds : Nat

namespace ClockReading

/-- Days since 1970-01-01, which is day 719163 of the Common Era. -/
def dayOnLine (year : Int) (month : Month) (day : Nat) : Int :=
  commonEraDay year month day - 719163

/-- The first second of the time line. -/
def firstSecond : Int := dayOnLine Date.firstYear .january 1 * 86400

/-- The last second of the time line. -/
def lastSecond : Int := dayOnLine Date.lastYear .december 31 * 86400 + 86399

/-- Whether a second lies on the time line. -/
def OnLine (seconds : Int) : Prop := firstSecond ≤ seconds ∧ seconds ≤ lastSecond

instance (seconds : Int) : Decidable (OnLine seconds) := inferInstanceAs (Decidable (_ ∧ _))

/-- The reading lies on the time line, and its fraction reaches into a leap second only after
    second 59. -/
def Valid (r : ClockReading) : Prop :=
  OnLine r.seconds ∧
    (r.nanoseconds < 1000000000 ∨ r.nanoseconds < 2000000000 ∧ r.seconds % 60 = 59)

instance (r : ClockReading) : Decidable r.Valid := inferInstanceAs (Decidable (_ ∧ _))

/-- The valid reading so many seconds after the start of 1970. -/
def ofSeconds? (seconds : Int) (nanoseconds : Nat) : Option ClockReading :=
  if Valid ⟨seconds, nanoseconds⟩ then some ⟨seconds, nanoseconds⟩ else none

/-- The reading with the given calendar fields: a day of the Gregorian calendar and a time of
    day, where only second 59 leaves room for a leap second. -/
def ofFields? (year : Int) (month : Month) (day hour minute second nanoseconds : Nat) :
    Option ClockReading :=
  if 1 ≤ day ∧ day ≤ month.length year ∧ hour < 24 ∧ minute < 60 ∧ second < 60 then
    ofSeconds? (dayOnLine year month day * 86400 + (hour * 3600 + minute * 60 + second))
      nanoseconds
  else none

/-- The reading `offset` seconds later. The fraction stays as it is. -/
def shift? (r : ClockReading) (offset : Int) : Option ClockReading :=
  if OnLine (r.seconds + offset) then some { r with seconds := r.seconds + offset } else none

/-- The calendar date. -/
def toDate (r : ClockReading) : Date := Date.ofEpochDay (r.seconds / 86400)

/-- The time of day. A leap second counts as the next second of its minute. -/
def toTime (r : ClockReading) : TimeOfDay :=
  TimeOfDay.ofSecondsOfDay (r.seconds % 86400).toNat r.nanoseconds

end ClockReading

/-- The calendar fields, at UTC, of a second counted from the start of 1970. -/
def civilOfEpochSeconds? (seconds : Int) : Option (Date × TimeOfDay) :=
  (ClockReading.ofSeconds? seconds 0).map fun r => (r.toDate, r.toTime)

end TimePattern
