import TimePattern.Calendar.ClockReading

/-!
# Stamps and moments

A `Stamp` is what reading a text builds up: a local date and time with an offset from UTC.
A `Moment` is what printing looks at. The two differ in that a moment may lack an offset, and
that it brings its own count of epoch seconds.

* `Stamp.moment`        every stamp can be printed
* `Moment.stamp`        every moment can be held as a stamp; a missing offset becomes UTC
-/

namespace TimePattern

/-- A local date and time with its offset from UTC, in minutes east. Nothing is checked. -/
structure Stamp where
  date : Date
  time : TimeOfDay
  offsetMinutes : Int32
  deriving DecidableEq

/-- The fields that a pattern can print. -/
structure Moment where
  /-- Whole seconds since 1970-01-01T00:00:00 at UTC. -/
  epochSeconds : Int
  date : Date
  time : TimeOfDay
  /-- Minutes east of UTC, if the offset is known. -/
  offsetMinutes? : Option Int32
  deriving DecidableEq

namespace Stamp

/-- No date, midnight, at UTC. -/
instance : Inhabited Stamp := ⟨default, default, 0⟩

/-- Whole seconds since 1970-01-01T00:00:00 at UTC. -/
def epochSeconds (s : Stamp) : Int :=
  s.date.epochDay * 86400 + s.time.secondsOfDay - s.offsetMinutes.toInt * 60

/-- The stamp as it is printed. -/
def moment (s : Stamp) : Moment where
  epochSeconds := s.epochSeconds
  date := s.date
  time := s.time
  offsetMinutes? := some s.offsetMinutes

end Stamp

namespace Moment

/-- The offset in minutes; a moment without one counts as UTC. -/
def offsetMinutes (m : Moment) : Int32 := m.offsetMinutes?.getD 0

/-- The fields of the moment, held as a stamp. Its own epoch seconds are dropped. -/
def stamp (m : Moment) : Stamp where
  date := m.date
  time := m.time
  offsetMinutes := m.offsetMinutes

end Moment

@[simp] theorem Stamp.date_moment (s : Stamp) : s.moment.date = s.date := rfl

@[simp] theorem Stamp.time_moment (s : Stamp) : s.moment.time = s.time := rfl

/-- A stamp brings along the epoch seconds that its fields count. -/
@[simp] theorem Stamp.epochSeconds_moment (s : Stamp) : s.moment.epochSeconds = s.epochSeconds :=
  rfl

@[simp] theorem Stamp.offsetMinutes_moment (s : Stamp) :
    s.moment.offsetMinutes = s.offsetMinutes := rfl

end TimePattern
