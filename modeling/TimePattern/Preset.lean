import TimePattern.Pattern

/-!
# Presets

Patterns that are known by name. `Preset.ofName?` takes a name exactly, `Preset.find` also in
other letter case.

* `ofName?_name`    `ofName? p.name = some p`
-/

namespace TimePattern

/-- A pattern known by name. -/
inductive Preset where
  /-- A date such as `2024-01-31`, with as many digits for the year as it needs. -/
  | isoDate
  /-- A date and time such as `2024-01-31T18:00:00+01:00`. -/
  | isoDateAndTime
  deriving DecidableEq

/-- No preset has this name. -/
structure UnknownPreset where
  name : String

/-- The text of the diagnostic. -/
def UnknownPreset.message (e : UnknownPreset) : String :=
  "unknown format preset `" ++ e.name ++ "`"

namespace Preset

/-- All presets, in their order. -/
def all : List Preset := [isoDate, isoDateAndTime]

/-- The name of the preset. -/
def name : Preset → String
  | isoDate => "iso8601-date"
  | isoDateAndTime => "iso8601-date-and-time"

/-- The directives of a date. -/
def dateDirectives : List Directive :=
  [.year, .literal '-', .month2, .literal '-', .day2]

/-- The directives of a time of day with its offset, behind the letter that parts it from the
    date. -/
def timeDirectives : List Directive :=
  [.literal 'T', .hour, .literal ':', .minute, .literal ':', .second, .offsetColon]

/-- What the preset stands for. -/
def pattern : Preset → Pattern
  | isoDate => ⟨dateDirectives⟩
  | isoDateAndTime => ⟨dateDirectives ++ timeDirectives⟩

/-- The preset with exactly this name. -/
def ofName? (name : String) : Option Preset := all.find? fun p => p.name = name

/-- A name with its ASCII letters in lower case. -/
def foldCase (name : String) : List Char := name.toList.map Char.toLower

/-- The preset with this name, where the case of ASCII letters does not matter. -/
def find (name : String) : Except UnknownPreset Preset :=
  match all.find? fun p => foldCase p.name = foldCase name with
  | some p => .ok p
  | none => .error ⟨name⟩

/-- A preset is found by its name. -/
@[simp] theorem ofName?_name (p : Preset) : ofName? p.name = some p := by
  cases p <;> rfl

end Preset

end TimePattern
