import TimePattern.Calendar.Month

/-!
# The proleptic Gregorian calendar

Days are numbered from 1970-01-01. Both directions go through years that begin in March: the
leap day is then the last day of its year, months have lengths that repeat every five, and a
period of 400 years, an *era*, has 146097 days.

* `dayNumber`          the number of a day given by year, month and day of the month
* `MarchDate.ofDayNumber`  the day with a given number
* `commonEraDay`       a count of its own, by years and by the day of the year
-/

namespace TimePattern

/-- Every fourth year, but of the years that end a century only every fourth. -/
def isLeapYear (year : Int) : Bool :=
  year % 4 = 0 && (year % 100 ≠ 0 || year % 400 = 0)

/-- The number of days in a month of the given year. -/
def Month.length (year : Int) : Month → Nat
  | .february => if isLeapYear year then 29 else 28
  | .april | .june | .september | .november => 30
  | _ => 31

/-- A day of a year that begins in March. Years count as the civil years in which they begin;
    months and days count from zero. -/
structure MarchDate where
  year : Int
  month : Int
  day : Int

namespace MarchDate

/-- The day `day` of a civil month, which may lie outside that month. -/
def ofCivil (year : Int) (month : Month) (day : Int) : MarchDate where
  year := if month.number ≤ 2 then year - 1 else year
  month := ((month.number : Int) + 9) % 12
  day := day - 1

/-- Whole periods of 400 years since year 0. -/
def era (d : MarchDate) : Int := d.year / 400

/-- Years since the era began. -/
def yearOfEra (d : MarchDate) : Int := d.year - d.era * 400

/-- Days since the first of March. -/
def dayOfYear (d : MarchDate) : Int := (153 * d.month + 2) / 5 + d.day

/-- Days since the era began. -/
def dayOfEra (d : MarchDate) : Int :=
  d.yearOfEra * 365 + d.yearOfEra / 4 - d.yearOfEra / 100 + d.dayOfYear

/-- Days since 1970-01-01, which lies 719468 days after the first of March of year 0. -/
def dayNumber (d : MarchDate) : Int := d.era * 146097 + d.dayOfEra - 719468

/-- The day with a given number. Inside an era the last of the four centuries is a day longer
    than the others, and so is the last year of each four: hence the minima with 3. -/
def ofDayNumber (n : Int) : MarchDate :=
  let z := n + 719468
  let dayOfEra := z % 146097
  let century := min (dayOfEra / 36524) 3
  let dayOfCentury := dayOfEra - century * 36524
  let dayOfCycle := dayOfCentury % 1461
  let yearOfCycle := min (dayOfCycle / 365) 3
  let dayOfYear := dayOfCycle - yearOfCycle * 365
  let month := (5 * dayOfYear + 2) / 153
  { year := z / 146097 * 400 + century * 100 + dayOfCentury / 1461 * 4 + yearOfCycle
    month := month
    day := dayOfYear - (153 * month + 2) / 5 }

/-- The civil month in which the day lies. -/
def civilMonth (d : MarchDate) : Month := Month.ofOrdinal (d.month + 2)

/-- The civil year: January and February belong to the next one. -/
def civilYear (d : MarchDate) : Int := if d.month ≥ 10 then d.year + 1 else d.year

/-- The day of the civil month, counted from one. -/
def civilDay (d : MarchDate) : Int := d.day + 1

end MarchDate

/-- The number of day `day` of a month, counted from 1970-01-01. A day outside the month counts
    on into its neighbours. -/
def dayNumber (year : Int) (month : Month) (day : Int) : Int :=
  (MarchDate.ofCivil year month day).dayNumber

/-! ## Years and months one after the other -/

/-- The leap years from year 1 to the given one, counted by the years that 4, 100 and 400
    divide. -/
def leapDays (year : Int) : Int := year / 4 - year / 100 + year / 400

/-- All months, in their order. -/
def Month.all : List Month :=
  [january, february, march, april, may, june, july, august, september, october, november,
   december]

/-- The number of days of a year before a month begins. -/
def Month.daysBefore (year : Int) (m : Month) : Nat :=
  (all.take m.ordinal).foldl (fun days earlier => days + earlier.length year) 0

/-- Days since the day before the first of January of year 1: the years before this one, of which
    leap years count a day more, and the day of the year. -/
def commonEraDay (year : Int) (month : Month) (day : Nat) : Int :=
  (year - 1) * 365 + leapDays (year - 1) + (month.daysBefore year + day)

end TimePattern
