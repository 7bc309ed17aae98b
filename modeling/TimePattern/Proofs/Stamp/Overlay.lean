import TimePattern.Stamp
import TimePattern.Directive

/-!
# Parts of a stamp

Reading writes into a stamp part by part. `Directive.writes` lists the parts that a directive
writes, and `Stamp.overlay` takes listed parts from one stamp and the others from another.

## Key results

- `overlay_assoc`: what is written last into a part stays there
- `overlay_overlay`: taking parts twice from one stamp takes all of them from it
-/

namespace TimePattern

/-- The parts of a stamp. -/
inductive StampPart where
  | year | month | day | hour | minute | second | nanosecond | offset
  deriving DecidableEq

/-- The parts of a stamp that a built-in directive writes when it reads. -/
def Directive.writes : Directive → List StampPart
  | year | year4 | year2 => [.year]
  | month | month2 => [.month]
  | day | day2 => [.day]
  | hour => [.hour]
  | minute => [.minute]
  | second => [.second]
  | unixSecond => [.year, .month, .day, .hour, .minute, .second, .nanosecond]
  | offsetColon | offsetCompact | offsetMinutes => [.offset]
  | monthShort | dayOfYear | zoneName | space | literal _ | custom _ => []

namespace Stamp

/-- The stamp `base` with the listed parts taken from `top`. -/
def overlay (base top : Stamp) (parts : List StampPart) : Stamp where
  date.year := if .year ∈ parts then top.date.year else base.date.year
  date.month := if .month ∈ parts then top.date.month else base.date.month
  date.day := if .day ∈ parts then top.date.day else base.date.day
  time.hour := if .hour ∈ parts then top.time.hour else base.time.hour
  time.minute := if .minute ∈ parts then top.time.minute else base.time.minute
  time.second := if .second ∈ parts then top.time.second else base.time.second
  time.nanosecond := if .nanosecond ∈ parts then top.time.nanosecond else base.time.nanosecond
  offsetMinutes := if .offset ∈ parts then top.offsetMinutes else base.offsetMinutes

/-- Without parts to take, the stamp stays as it is. -/
@[simp] theorem overlay_nil (base top : Stamp) : base.overlay top [] = base := by
  simp [overlay]

/-- A part that is taken in two steps comes from the last one that lists it. -/
theorem ite_mem_append {α : Type} (part : StampPart) (parts parts' : List StampPart) (a b c : α) :
    (if part ∈ parts' then a else if part ∈ parts then b else c) =
      if part ∈ parts ++ parts' then (if part ∈ parts' then a else b) else c := by
  -- Whether each of the two lists has the part
  by_cases h : part ∈ parts <;> by_cases h' : part ∈ parts' <;> simp [h, h']

/-- Two overlays, one after the other, are one with the overlay of the two. -/
theorem overlay_assoc (base middle top : Stamp) (parts parts' : List StampPart) :
    (base.overlay middle parts).overlay top parts' =
      base.overlay (middle.overlay top parts') (parts ++ parts') := by
  -- Part by part, since each is taken or kept for itself
  simp only [overlay, ite_mem_append]

/-- Parts of the stamp itself change nothing. -/
@[simp] theorem overlay_self (s : Stamp) (parts : List StampPart) : s.overlay s parts = s := by
  simp only [overlay, ite_self]

/-- Parts that are taken twice count once. -/
theorem overlay_overlay (base top : Stamp) (parts parts' : List StampPart) :
    (base.overlay top parts).overlay top parts' = base.overlay top (parts ++ parts') := by
  rw [overlay_assoc, overlay_self]

end Stamp

end TimePattern
