import TimePattern.Text.Decimal
import TimePattern.Text.Reader

/-!
# Fields of a written date

Each reader takes one field from the front of a text and gives back its value and the text
behind it, or `none` if the text does not begin with such a field. Digits are ASCII digits.

* `fixedDigits`, `shortDigits`, `boundedRun`  numbers
* `offsetColon`, `offsetCompact`, `offsetMinutes`  offsets, with or without a sign
-/

namespace TimePattern.Field

/-- The value of a non-empty run of digits, if it is at most `limit`. -/
def bounded? (limit : Nat) (digits : List Char) : Option Nat :=
  if digits ≠ [] ∧ Decimal.value digits ≤ limit then some (Decimal.value digits) else none

/-- Exactly `count` digits, whose value fits 32 bits. No digits at all are no number. -/
def fixedDigits (count : Nat) : Reader Nat := fun text =>
  let digits := text.take count
  if digits.length = count ∧ digits.all Char.isDigit then
    (bounded? 4294967295 digits).map (·, text.drop count)
  else none

/-- Two digits if there are two, else one. -/
def shortDigits : Reader Nat
  | a :: b :: rest =>
    if a.isDigit then
      if b.isDigit then some (Decimal.value [a, b], rest) else some (Decimal.value [a], b :: rest)
    else none
  | [a] => if a.isDigit then some (Decimal.value [a], []) else none
  | [] => none

/-- All the digits at the front of the text, if there are any and their value is at most
    `limit`. A shorter run is never taken instead. -/
def boundedRun (limit : Nat) : Reader Nat := fun text =>
  (bounded? limit (Decimal.run text)).map (·, Decimal.rest text)

/-- A year of any number of digits. -/
def year : Reader Nat := boundedRun 2147483647

/-- Seconds since the epoch. -/
def epochSeconds : Reader Nat := boundedRun 9223372036854775807

/-- The year that two digits stand for: 00 to 69 lie in the 2000s, 70 to 99 in the 1900s. -/
def yearOfTwoDigits (n : Nat) : Nat := if n < 70 then 2000 + n else 1900 + n

/-- A year of two digits. -/
def yearTwoDigit : Reader Nat := fun text =>
  (fixedDigits 2 text).map fun (n, rest) => (yearOfTwoDigits n, rest)

/-- One given character. -/
def literal (c : Char) : Reader Char
  | d :: rest => if d = c then some (d, rest) else none
  | [] => none

/-- A sign, if there is one: `true` for a minus. -/
def sign : List Char → Bool × List Char
  | '+' :: rest => (false, rest)
  | '-' :: rest => (true, rest)
  | text => (false, text)

/-- A number of minutes with its sign. -/
def signed (negative : Bool) (minutes : Nat) : Int :=
  if negative then -(minutes : Int) else minutes

/-- An offset such as `+01:30`. -/
def offsetColon : Reader Int := fun text => do
  let (negative, text) := sign text
  let (hours, text) ← fixedDigits 2 text
  let (_, text) ← literal ':' text
  let (minutes, text) ← fixedDigits 2 text
  return (signed negative (hours * 60 + minutes), text)

/-- An offset such as `+0130`. -/
def offsetCompact : Reader Int := fun text => do
  let (negative, text) := sign text
  let (hours, text) ← fixedDigits 2 text
  let (minutes, text) ← fixedDigits 2 text
  return (signed negative (hours * 60 + minutes), text)

/-- An offset in minutes such as `-90`. -/
def offsetMinutes : Reader Int := fun text => do
  let (negative, text) := sign text
  let (minutes, text) ← boundedRun 2147483647 text
  return (signed negative minutes, text)

end TimePattern.Field
