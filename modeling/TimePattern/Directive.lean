import TimePattern.Stamp
import TimePattern.Text.Quoted

/-!
# Directives

A `Directive` stands for one piece of a written date or time: a field in some spelling, a
literal character, or a directive that the caller brings along.

* `Directive.isReadable`  the directives that have a reading rule
* `Directive.same`        equality, where caller-supplied directives are told apart by name only
* `Directive.label`       the name used in diagnostics
-/

namespace TimePattern

/-- A directive that the caller brings along. Its name is its identity. -/
structure CustomDirective where
  name : String
  /-- The text for a moment. -/
  printer : Moment → List Char
  /-- Takes what was read so far and the input that is left; gives both back changed, or says
      what is wrong. -/
  reader : Stamp → List Char → Except String (Stamp × List Char)

/-- One piece of a pattern. -/
inductive Directive where
  /-- The year with as many digits as it needs. -/
  | year
  /-- The year with four digits at least. -/
  | year4
  /-- The year counted from 1900, with two digits at least. -/
  | year2
  /-- The month number. -/
  | month
  /-- The month number with two digits. -/
  | month2
  /-- The first three letters of the month's name. -/
  | monthShort
  /-- The day of the year with three digits. -/
  | dayOfYear
  /-- The day of the month. -/
  | day
  /-- The day of the month with two digits at least. -/
  | day2
  /-- The hour with two digits at least. -/
  | hour
  /-- The minute with two digits at least. -/
  | minute
  /-- The second with two digits at least. -/
  | second
  /-- Seconds since 1970-01-01T00:00:00 at UTC. -/
  | unixSecond
  /-- The name of the time zone, which is never known. -/
  | zoneName
  /-- The offset with a colon, such as `+01:30`. -/
  | offsetColon
  /-- The offset without a colon, such as `+0130`. -/
  | offsetCompact
  /-- The offset in minutes, such as `90`. -/
  | offsetMinutes
  /-- A space. -/
  | space
  /-- A character that stands for itself. -/
  | literal (c : Char)
  /-- A directive of the caller's own. -/
  | custom (d : CustomDirective)

namespace Directive

/-- Whether there is a rule by which the directive reads. -/
def isReadable : Directive → Bool
  | monthShort | dayOfYear | zoneName | space => false
  | _ => true

/-- Equality. Two custom directives are the same if their names are. -/
def same : Directive → Directive → Bool
  | literal c, literal c' => c == c'
  | custom d, custom d' => d.name == d'.name
  | a, b => a.ctorIdx == b.ctorIdx

instance : BEq Directive := ⟨same⟩

/-- The name by which diagnostics call the directive. -/
def label : Directive → String
  | year => "Year"
  | year4 => "Year4"
  | year2 => "Year2"
  | month => "Month"
  | month2 => "Month2"
  | monthShort => "MonthShort"
  | dayOfYear => "DayOfYear"
  | day => "Day"
  | day2 => "Day2"
  | hour => "Hour"
  | minute => "Minute"
  | second => "Second"
  | unixSecond => "UnixSecond"
  | zoneName => "TzName"
  | offsetColon => "TzOffsetColon"
  | offsetCompact => "TzOffsetCompact"
  | offsetMinutes => "TzOffsetMinutes"
  | space => "Spaces"
  | literal c => "Literal(" ++ String.ofList (quoteChar c) ++ ")"
  | custom d => "Custom(CustomToken(" ++ String.ofList (quoteText d.name.toList) ++ "))"

/-- Each directive is the same as itself. -/
@[simp] theorem same_self (d : Directive) : d.same d = true := by
  cases d <;> simp [same]

instance : ReflBEq Directive := ⟨same_self _⟩

/-- The directives that stand for a field or a space: all but the literal and custom ones. -/
def plain : List Directive :=
  [year, year4, year2, month, month2, monthShort, dayOfYear, day, day2, hour, minute, second,
   unixSecond, zoneName, offsetColon, offsetCompact, offsetMinutes, space]

end Directive

end TimePattern
