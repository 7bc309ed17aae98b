import TimePattern.Toml.Value
import TimePattern.Text.Reader
import TimePattern.Calendar.Gregorian

/-!
# Dates and times in TOML

A day such as `1979-05-27`, a time of day such as `07:32:00.5`, or both with a `T` or a space
between them and then perhaps an offset. Fields must be in range; second 60 is allowed.
-/

namespace TimePattern.Toml.Datetime

/-- A number of exactly `count` digits that lies between two bounds. -/
def field (count lo hi : Nat) : Reader Nat := fun text =>
  let digits := text.take count
  if digits.length = count ∧ digits.all Char.isDigit ∧
      lo ≤ Decimal.value digits ∧ Decimal.value digits ≤ hi then
    some (Decimal.value digits, text.drop count)
  else none

/-- A day of the calendar. -/
def day? : Reader Day := fun text => do
  let (year, text) ← field 4 0 9999 text
  let (_, text) ← Reader.exactly ['-'] text
  let (month, text) ← field 2 1 12 text
  let (_, text) ← Reader.exactly ['-'] text
  let (date, text) ← field 2 1 ((Month.ofOrdinal ((month : Int) - 1)).length year) text
  return (⟨year, month, date⟩, text)

/-- The nanoseconds in the digits of a fraction of a second. Digits beyond the ninth are
    dropped. -/
def nanoseconds (digits : List Char) : Nat :=
  Decimal.value ((digits ++ List.replicate 9 '0').take 9)

/-- A fraction of a second, if there is one. -/
def fraction (text : List Char) : Nat × List Char :=
  match text with
  | '.' :: rest => if Decimal.run rest = [] then (0, text)
      else (nanoseconds (Decimal.run rest), Decimal.rest rest)
  | _ => (0, text)

/-- A time of day. -/
def clock? : Reader Clock := fun text => do
  let (hour, text) ← field 2 0 23 text
  let (_, text) ← Reader.exactly [':'] text
  let (minute, text) ← field 2 0 59 text
  let (_, text) ← Reader.exactly [':'] text
  let (second, text) ← field 2 0 60 text
  let (nanosecond, text) := fraction text
  return (⟨hour, minute, second, nanosecond⟩, text)

/-- An offset in hours and minutes behind its sign. -/
def zoneMinutes : Reader Nat := fun text => do
  let (hours, text) ← field 2 0 23 text
  let (_, text) ← Reader.exactly [':'] text
  let (minutes, text) ← field 2 0 59 text
  return (hours * 60 + minutes, text)

/-- An offset from UTC. -/
def zone? : Reader Zone
  | 'Z' :: text | 'z' :: text => some (.zulu, text)
  | '+' :: text => (zoneMinutes text).map fun (n, text) => (.minutes n, text)
  | '-' :: text => (zoneMinutes text).map fun (n, text) => (.minutes (-(n : Int)), text)
  | _ => none

/-- A character that parts a day from a time of day. -/
def isSeparator (c : Char) : Bool := c = 'T' || c = 't' || c = ' '

/-- The time of day and offset that may follow a day. -/
def ofDay (d : Day) (text : List Char) : Datetime × List Char :=
  match (Reader.satisfying isSeparator text).bind fun (_, text) => clock? text with
  -- Without a time of day, what parts them is left where it stands
  | none => (.day d, text)
  | some (c, text) =>
    match zone? text with
    | none => (.unzoned d c, text)
    | some (z, text) => (.zoned d c z, text)

/-- A date, a time, or both. -/
def datetime : Reader Datetime := fun text =>
  match day? text with
  | some (d, text) => some (ofDay d text)
  | none => (clock? text).map fun (c, text) => (.clock c, text)

end TimePattern.Toml.Datetime
