/-!
# Months

The twelve months, counted from zero by `ordinal` and from one by `number`.

* `ofOrdinal`           the month some months after a January
* `ofOrdinal_ordinal`   `ofOrdinal m.ordinal = m`
-/

namespace TimePattern

/-- A month of the year. -/
inductive Month where
  | january | february | march | april | may | june
  | july | august | september | october | november | december
  deriving DecidableEq, Inhabited

namespace Month

/-- Months since January. -/
def ordinal : Month → Nat
  | january => 0 | february => 1 | march => 2 | april => 3 | may => 4 | june => 5
  | july => 6 | august => 7 | september => 8 | october => 9 | november => 10 | december => 11

/-- The usual month number: January is 1. -/
def number (m : Month) : Nat := m.ordinal + 1

/-- The month that lies `n` months after a January, in either direction. -/
def ofOrdinal (n : Int) : Month :=
  match (n % 12).toNat with
  | 0 => january | 1 => february | 2 => march | 3 => april | 4 => may | 5 => june
  | 6 => july | 7 => august | 8 => september | 9 => october | 10 => november | _ => december

/-- The month of a number from 1 to 12. -/
def ofNumber? (n : Int) : Option Month :=
  if 1 ≤ n ∧ n ≤ 12 then some (ofOrdinal (n - 1)) else none

/-- The English name. -/
def name : Month → List Char
  | january => ['J', 'a', 'n', 'u', 'a', 'r', 'y']
  | february => ['F', 'e', 'b', 'r', 'u', 'a', 'r', 'y']
  | march => ['M', 'a', 'r', 'c', 'h']
  | april => ['A', 'p', 'r', 'i', 'l']
  | may => ['M', 'a', 'y']
  | june => ['J', 'u', 'n', 'e']
  | july => ['J', 'u', 'l', 'y']
  | august => ['A', 'u', 'g', 'u', 's', 't']
  | september => ['S', 'e', 'p', 't', 'e', 'm', 'b', 'e', 'r']
  | october => ['O', 'c', 't', 'o', 'b', 'e', 'r']
  | november => ['N', 'o', 'v', 'e', 'm', 'b', 'e', 'r']
  | december => ['D', 'e', 'c', 'e', 'm', 'b', 'e', 'r']

/-- The first three letters of the name. -/
def abbreviation (m : Month) : List Char := m.name.take 3

/-- Months are numbered up to 12. -/
theorem number_le (m : Month) : m.number ≤ 12 := by
  cases m <;> decide

/-- A month is found again by its ordinal. -/
@[simp] theorem ofOrdinal_ordinal (m : Month) : ofOrdinal m.ordinal = m := by
  cases m <;> rfl

end Month

end TimePattern
