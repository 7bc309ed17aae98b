import TimePattern.Stamp
import TimePattern.Calendar.ZonedDateTime

/-!
# Stamps and clocks

Validated dates and times can be printed, and a stamp whose fields a clock can show has a
validated form.

* `PlainDateTime.moment`   always printable, without an offset
* `ZonedDateTime.moment`   printable if the wall clock is still on the time line
* `Stamp.wall?`            the clock reading that a stamp describes
* `Stamp.toZoned?`         the instant that a stamp names, if its fields name one
-/

namespace TimePattern

/-- The one way in which a validated value cannot be printed. -/
inductive ClockError where
  /-- The local time lies outside the years that the time line covers. -/
  | localTimeOutOfRange
  deriving DecidableEq

/-- The text of the diagnostic. -/
def ClockError.message : ClockError → String
  | localTimeOutOfRange => "Local time out of range for `NaiveDateTime`"

/-- The fields to print. The epoch seconds are those of the same reading at UTC. -/
def PlainDateTime.moment (p : PlainDateTime) : Moment where
  epochSeconds := p.reading.seconds
  date := p.reading.toDate
  time := p.reading.toTime
  offsetMinutes? := none

/-- The fields to print: those of the wall clock. -/
def ZonedDateTime.moment (z : ZonedDateTime) : Except ClockError Moment :=
  match z.wallClock? with
  | none => .error .localTimeOutOfRange
  | some r =>
    .ok { epochSeconds := z.epochSeconds
          date := r.toDate
          time := r.toTime
          offsetMinutes? := some z.offsetMinutes }

/-! ## Stamps on clocks -/

namespace TimeOfDay

/-- The second on the time line: second 60 is the leap second after second 59. -/
def clockSecond (t : TimeOfDay) : UInt8 := if t.second = 60 then 59 else t.second

/-- The nanoseconds since that second, where a leap second begins a whole second later. The sum
    has 32 bits, and wraps around where it would need more. -/
def clockNanosecond (t : TimeOfDay) : UInt32 :=
  if t.second = 60 then 1000000000 + t.nanosecond else t.nanosecond

/-- The fraction of a leap second leaves room in 32 bits for the second before it. -/
def LeapFits (t : TimeOfDay) : Prop := t.second = 60 → t.nanosecond.toNat ≤ 3294967295

instance (t : TimeOfDay) : Decidable t.LeapFits := inferInstanceAs (Decidable (_ → _))

end TimeOfDay

namespace Stamp

/-- The reading with the fields of the stamp, if a clock can show them. -/
def wall? (s : Stamp) : Option ClockReading :=
  ClockReading.ofFields? s.date.year.toInt s.date.month s.date.day.toNat s.time.hour.toNat
    s.time.minute.toNat s.time.clockSecond.toNat s.time.clockNanosecond.toNat

/-- The validated form of a stamp: the instant at which the clock on the wall shows it. -/
def toZoned? (s : Stamp) : Option ZonedDateTime :=
  s.wall?.bind fun wall =>
    -- UTC is behind the clock on the wall by the offset
    (wall.shift? (-(s.offsetMinutes.toInt * 60))).bind fun utc =>
      ZonedDateTime.ofReading? utc (s.offsetMinutes.toInt * 60)

end Stamp

end TimePattern
