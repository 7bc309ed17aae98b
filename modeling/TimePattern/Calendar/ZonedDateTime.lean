import TimePattern.Calendar.ClockReading

/-!
# Validated dates and times

The values here are checked against the calendar: a `PlainDateTime` is a reading of some local
clock, a `ZonedDateTime` an instant together with the offset of a clock on the wall.

* `PlainDateTime.ofFields?`   the local clock that shows given fields, if one can
* `ZonedDateTime.ofEpoch?`    the instant some time after the start of 1970
* `ZonedDateTime.wallClock?`  what the clock on the wall shows, if that is on the time line
-/

namespace TimePattern

/-- A reading of a local clock whose offset from UTC is unknown. -/
structure PlainDateTime where
  reading : ClockReading
  valid : reading.Valid

/-- An instant, as a clock at UTC shows it, and the offset of another clock from UTC. -/
structure ZonedDateTime where
  utc : ClockReading
  /-- Seconds east of UTC. -/
  offsetSeconds : Int
  valid : utc.Valid
  /-- The offset is less than a day. -/
  offset_lt : offsetSeconds.natAbs < 86400

namespace PlainDateTime

/-- Accepts a reading that lies on the time line, with leap seconds after second 59 only. -/
def ofReading? (r : ClockReading) : Option PlainDateTime :=
  if h : r.Valid then some ⟨r, h⟩ else none

/-- The local clock shows these fields. -/
def ofFields? (year : Int) (month : Month) (day hour minute second nanoseconds : Nat) :
    Option PlainDateTime :=
  (ClockReading.ofFields? year month day hour minute second nanoseconds).bind ofReading?

end PlainDateTime

namespace ZonedDateTime

/-- An instant on the time line, with an offset of less than a day. -/
def ofReading? (utc : ClockReading) (offsetSeconds : Int) : Option ZonedDateTime :=
  if h : utc.Valid ∧ offsetSeconds.natAbs < 86400 then some ⟨utc, offsetSeconds, h.1, h.2⟩
  else none

/-- The instant `seconds` and `nanoseconds` after the start of 1970 at UTC. -/
def ofEpoch? (seconds : Int) (nanoseconds : Nat) (offsetSeconds : Int) : Option ZonedDateTime :=
  (ClockReading.ofSeconds? seconds nanoseconds).bind (ofReading? · offsetSeconds)

/-- Whole seconds since 1970-01-01T00:00:00 at UTC; a leap second counts as the second before
    it. -/
def epochSeconds (z : ZonedDateTime) : Int := z.utc.seconds

/-- The offset in whole minutes, towards zero. -/
def offsetMinutes (z : ZonedDateTime) : Int32 := Int32.ofInt (z.offsetSeconds.tdiv 60)

/-- What the clock at the given offset shows, if it is on the time line. -/
def wallClock? (z : ZonedDateTime) : Option ClockReading := z.utc.shift? z.offsetSeconds

end ZonedDateTime

end TimePattern
