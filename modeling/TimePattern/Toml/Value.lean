import TimePattern.Text.Decimal
import TimePattern.Offset

/-!
# TOML values

The values that a TOML document can hold. Tables remember how they came about, because that
decides whether a later line may add to them.
-/

namespace TimePattern.Toml

/-- A calendar day. -/
structure Day where
  year : Nat
  month : Nat
  day : Nat

/-- A time of day. -/
structure Clock where
  hour : Nat
  minute : Nat
  second : Nat
  nanosecond : Nat

/-- The offset of a date and time from UTC. -/
inductive Zone where
  /-- Written `Z`. -/
  | zulu
  /-- Minutes east of UTC. -/
  | minutes (n : Int)

/-- The four kinds of dates and times. -/
inductive Datetime where
  | day (day : Day)
  | clock (clock : Clock)
  | unzoned (day : Day) (clock : Clock)
  | zoned (day : Day) (clock : Clock) (zone : Zone)

/-- How a table came about. -/
inductive Origin where
  /-- Written in braces; nothing can be added later. -/
  | inline
  /-- Named by a header of its own. -/
  | header
  /-- On the way to a table that a header names. -/
  | implied
  /-- On the way to a value with a dotted key. -/
  | dotted
  deriving DecidableEq

/-- A value. Floats are kept as they are written. -/
inductive Value where
  | string (text : List Char)
  | integer (n : Int)
  | float (literal : List Char)
  | boolean (b : Bool)
  | datetime (d : Datetime)
  | array (items : List Value)
  | table (origin : Origin) (entries : List (String × Value))
  /-- An array of tables made by headers; `last` holds the entries of the last one. -/
  | tables (earlier : List Value) (last : List (String × Value))

/-- The entries of a table, in the order in which they were defined. -/
abbrev Entries := List (String × Value)

namespace Datetime

/-- The text of a day, such as `1979-05-27`. -/
def dayText (d : Day) : List Char :=
  Decimal.ofNat 4 d.year ++ '-' :: (Decimal.ofNat 2 d.month ++ '-' :: Decimal.ofNat 2 d.day)

/-- A fraction of a second, without trailing zeros. -/
def fractionText (nanosecond : Nat) : List Char :=
  if nanosecond = 0 then []
  else '.' :: ((Decimal.ofNat 9 nanosecond).reverse.dropWhile (· = '0')).reverse

/-- The text of a time of day, such as `07:32:00.5`. -/
def clockText (c : Clock) : List Char :=
  Decimal.ofNat 2 c.hour ++ ':' :: (Decimal.ofNat 2 c.minute ++
    ':' :: (Decimal.ofNat 2 c.second ++ fractionText c.nanosecond))

/-- The text of an offset. -/
def zoneText : Zone → List Char
  | .zulu => ['Z']
  | .minutes n => Offset.colon n

/-- The normal form in which a date or time is written. -/
def text : Datetime → List Char
  | day d => dayText d
  | clock c => clockText c
  | unzoned d c => dayText d ++ 'T' :: clockText c
  | zoned d c z => dayText d ++ 'T' :: (clockText c ++ zoneText z)

end Datetime

end TimePattern.Toml
