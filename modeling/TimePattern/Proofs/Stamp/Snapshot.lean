import Mathlib.Data.List.Basic
import TimePattern.Print
import TimePattern.Stamp.Clock
import TimePattern.Proofs.Calendar.CivilTime
import TimePattern.Proofs.Reading.Finds

/-!
# Snapshots of clocks

A stamp that holds what a clock shows has no room for two things: the seconds of an offset beyond
its whole minutes, and a leap second that its clock does not count. By just these its own epoch
seconds are off. All else that a pattern prints is kept.

## Key results

- `ZonedDateTime.moment_eq_ok_iff`: what the clock on the wall shows, and when it shows something
- `Moment.ShiftsBy.of_epochSeconds`: only the epoch seconds are printed otherwise
- `epochSeconds_stamp_of_clock`: by how much they are shifted
-/

namespace TimePattern

/-! ## Moments held as stamps -/

/-- Held as a stamp, the moment keeps its fields, and its epoch seconds are shifted by `correction`.
    A pattern of built-in directives prints the same from both, unless it prints epoch seconds that
    differ. -/
structure Moment.ShiftsBy (m : Moment) (correction : Int) : Prop where
  fields_stamp : m.stamp.date = m.date ∧ m.stamp.time = m.time ∧
    m.stamp.offsetMinutes = m.offsetMinutes
  epochSeconds_stamp : m.stamp.epochSeconds = m.epochSeconds + correction
  print_stamp : ∀ p : Pattern, (∀ d ∈ p.directives, d.isCustom = false) →
    (correction = 0 ∨ ∀ d ∈ p.directives, d ≠ .unixSecond) → p.print m.stamp.moment = p.print m

/-- A built-in directive other than the one for epoch seconds prints only what a stamp holds. -/
theorem Directive.print_stamp {d : Directive} (hd : d.isCustom = false) {m : Moment}
    (h : d = .unixSecond → m.stamp.epochSeconds = m.epochSeconds) :
    d.print m.stamp.moment = d.print m := by
  cases d with
  | custom own => cases hd
  | unixSecond => rw [print, print, Stamp.epochSeconds_moment, h rfl]
  | _ => rfl

/-- A stamp takes over the date, the time and the minutes of the offset, so that only the epoch
    seconds are left to compare. -/
theorem Moment.ShiftsBy.of_epochSeconds {m : Moment} {correction : Int}
    (h : m.stamp.epochSeconds = m.epochSeconds + correction) : m.ShiftsBy correction where
  fields_stamp := ⟨rfl, rfl, rfl⟩
  epochSeconds_stamp := h
  print_stamp := by
    intro p hbuiltin hshift
    apply List.flatMap_congr
    intro d hd
    apply Directive.print_stamp (hbuiltin d hd)
    rintro rfl
    -- Either nothing is shifted, or no directive of the pattern shows it
    obtain rfl | hnone := hshift
    · rw [h, Int.add_zero]
    · exact absurd rfl (hnone _ hd)

/-- The epoch seconds of a stamp that shows a reading. -/
theorem Stamp.epochSeconds_of_reading {r : ClockReading} (hline : ClockReading.OnLine r.seconds)
    (hnano : r.nanoseconds < 2000000000) (offset : Int32) :
    (⟨r.toDate, r.toTime, offset⟩ : Stamp).epochSeconds =
      r.seconds + r.leap - offset.toInt * 60 := by
  rw [epochSeconds, ClockReading.epochDay_add_secondsOfDay hline hnano]

/-! ## The clock on the wall -/

namespace ZonedDateTime

/-- What the clock on the wall would show if the time line had no ends. -/
def wall (z : ZonedDateTime) : ClockReading where
  seconds := z.utc.seconds + z.offsetSeconds
  nanoseconds := z.utc.nanoseconds

/-- The clock on the wall shows nothing where the line has ended. -/
theorem wallClock?_eq (z : ZonedDateTime) :
    z.wallClock? = if ClockReading.OnLine z.wall.seconds then some z.wall else none := rfl

/-- The clock on the wall shows something if it is on the time line. -/
theorem moment_eq_ok_iff {z : ZonedDateTime} {m : Moment} :
    z.moment = .ok m ↔ ClockReading.OnLine z.wall.seconds ∧
      m = ⟨z.epochSeconds, z.wall.toDate, z.wall.toTime, some z.offsetMinutes⟩ := by
  rw [moment, wallClock?_eq]
  split
  · next h =>
    -- The clock shows nothing off the line, and only there
    split at h
    · cases h
    · next hoff => simp [hoff]
  · next r h =>
    split at h
    · next hline =>
      cases h
      simp [hline, eq_comm]
    · cases h

/-- Whole minutes of an offset fit their field. -/
theorem toInt_offsetMinutes (z : ZonedDateTime) :
    z.offsetMinutes.toInt = z.offsetSeconds.tdiv 60 := by
  have hlt := z.offset_lt
  have hdiv : (z.offsetSeconds.tdiv 60).natAbs = z.offsetSeconds.natAbs / 60 :=
    Int.natAbs_tdiv z.offsetSeconds 60
  exact Int32.toInt_ofInt_of_le (by omega) (by omega)

end ZonedDateTime

/-! ## Clocks -/

/-- Held as a stamp, what a clock shows is off by the seconds of the offset beyond its whole minutes
    and by the leap second, and it prints the same where these do not show. -/
theorem epochSeconds_stamp_of_clock :
    (∀ x : PlainDateTime, x.moment.ShiftsBy x.reading.leap) ∧
    ∀ z : ZonedDateTime, ClockReading.OnLine (z.epochSeconds + z.offsetSeconds) →
      ∃ m, z.moment = .ok m ∧ m.epochSeconds = z.epochSeconds ∧
        m.ShiftsBy (z.offsetSeconds - 60 * z.offsetSeconds.tdiv 60 + z.utc.leap) := by
  constructor
  · -- A clock without an offset has no seconds beyond minutes to lose
    intro x
    have hseconds := Stamp.epochSeconds_of_reading x.valid.1 x.valid.nanoseconds_lt 0
    apply Moment.ShiftsBy.of_epochSeconds
    simpa [PlainDateTime.moment, Moment.stamp, Moment.offsetMinutes] using hseconds
  · intro z hline
    have hseconds := Stamp.epochSeconds_of_reading (r := z.wall) hline z.valid.nanoseconds_lt
      z.offsetMinutes
    refine ⟨_, ZonedDateTime.moment_eq_ok_iff.2 ⟨hline, rfl⟩, rfl, .of_epochSeconds ?_⟩
    -- The wall clock is ahead by the whole offset, and the stamp takes off its whole minutes
    have hwall : z.wall.seconds = z.epochSeconds + z.offsetSeconds := rfl
    have hleap : z.wall.leap = z.utc.leap := rfl
    rw [z.toInt_offsetMinutes, hwall, hleap] at hseconds
    simp only [Moment.stamp, Moment.offsetMinutes, Option.getD_some]
    omega

/-- A leap second at UTC, seen half a minute behind. The clock on the wall shows second 30, and the
    stamp loses the half minute but counts the leap second. -/
theorem epochSeconds_stamp_of_clock_leapSecond :
    let z : ZonedDateTime := ⟨⟨59, 1500000000⟩, -30, by decide, by decide⟩
    ClockReading.OnLine (z.epochSeconds + z.offsetSeconds) ∧
      ∃ m, z.moment = .ok m ∧ m.epochSeconds = 59 ∧ m.ShiftsBy (-29) :=
  ⟨by decide, epochSeconds_stamp_of_clock.2 _ (by decide)⟩

end TimePattern
