import TimePattern.Mnemonic
import TimePattern.Preset
import TimePattern.Toml.Value

/-!
# Configured patterns

A configuration gives a pattern either as a text in mnemonic notation or as a table that names a
preset. `Setting` is what configuration files have in common as far as this matters.

* `Source.ofSetting?`   the pattern source that a setting denotes
-/

namespace TimePattern

/-- A configuration value, seen as far as pattern sources need it. -/
inductive Setting where
  | text (chars : List Char)
  /-- A value that says that there is none. -/
  | absent
  | table (entries : List (String × Setting))
  /-- Any other value. -/
  | other

instance : Inhabited Setting := ⟨.absent⟩

mutual

/-- A TOML value as a setting. -/
def Setting.ofToml : Toml.Value → Setting
  | .string chars => .text chars
  | .table _ entries => .table (Setting.ofEntries entries)
  | _ => .other

/-- The entries of a TOML table as settings. -/
def Setting.ofEntries : List (String × Toml.Value) → List (String × Setting)
  | [] => []
  | (key, v) :: rest => (key, Setting.ofToml v) :: Setting.ofEntries rest

end

/-- Where a configured pattern comes from. -/
inductive Source where
  /-- A text in mnemonic notation. -/
  | mnemonic (text : List Char)
  | preset (preset : Preset)
  deriving DecidableEq

/-- The setting denotes no pattern source. -/
structure BadSource where

/-- The text of the diagnostic. -/
def BadSource.message (_ : BadSource) : String :=
  "data did not match any variant of untagged enum FormatSource"

namespace Source

/-- The pattern that the source stands for. -/
def pattern : Source → Pattern
  | mnemonic text => Mnemonic.compile text
  | preset p => p.pattern

/-- The preset that a setting names: by its exact name, or by a table that has this name as its
    only key and no value for it. -/
def presetOfSetting? : Setting → Option Preset
  | .text name => Preset.ofName? (String.ofList name)
  -- The form in which an enumeration is written where each value may carry data
  | .table [(name, .absent)] => Preset.ofName? name
  | _ => none

/-- The source that a setting denotes: a text, or a table with a preset under the key `preset`.
    Other keys of the table do not matter. -/
def ofSetting? : Setting → Option Source
  | .text chars => some (.mnemonic chars)
  | .table entries => ((entries.lookup "preset").bind presetOfSetting?).map .preset
  | _ => none

/-- The source that a setting denotes, which ought to denote one. -/
def ofSetting (s : Setting) : Except BadSource Source :=
  match ofSetting? s with
  | some source => .ok source
  | none => .error ⟨⟩

end Source

end TimePattern
