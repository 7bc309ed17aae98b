import Mathlib.Data.Nat.Digits.Defs
import TimePattern.Proofs.Field.OffsetText

/-!
# Numbers by the places of their digits

A run of digits denotes the sum of its digits, each times the power of ten that belongs to its place.
The readers of numbers find this sum for texts of any length. Those that take all digits at the front
of a text refuse a number that is too large, and do not turn to fewer digits.

## Key results

- `Decimal.value_eq_placeValue`: the value of digits is the sum over their places
- `boundedRun_eq_some_iff_hasNumber`: the run is read as a whole or not at all
- `numbers_exact`: all readers of numbers
-/

namespace TimePattern

namespace Decimal

/-- The sum of the digits, where the last one counts ones, the one before it tens, and so on. -/
def placeValue (digits : List Char) : Nat :=
  Nat.ofDigits 10 (digits.reverse.map fun c => c.toNat - '0'.toNat)

/-- The first of several digits belongs to the highest place. -/
theorem placeValue_cons (c : Char) (digits : List Char) :
    placeValue (c :: digits) = 10 ^ digits.length * (c.toNat - '0'.toNat) + placeValue digits := by
  rw [placeValue, List.reverse_cons, List.map_append, Nat.ofDigits_append, placeValue]
  simp [Nat.add_comm]

/-- Reading digits from the left, each time ten times what there was and the next digit, gives the
    sum over the places. -/
theorem value_eq_placeValue (digits : List Char) : value digits = placeValue digits := by
  induction digits with
  | nil => rfl
  -- One more digit in front belongs to the place that is as high as there are digits behind it
  | cons c digits ih => rw [value_cons, placeValue_cons, ih]

/-- The text is a run of digits and a rest that does not go on with a digit. -/
structure LongestRun (text digits rest : List Char) : Prop where
  text_eq : text = digits ++ rest
  isDigit : ∀ c ∈ digits, c.isDigit = true
  endsRun : EndsRun rest

end Decimal

namespace Field

open Decimal (EndsRun LongestRun placeValue)

/-- All the digits at the front of the text, of which there is one at least, denote a number that is
    within the limit. -/
def HasNumber (limit : Nat) (text : List Char) (n : Nat) (rest : List Char) : Prop :=
  ∃ digits, LongestRun text digits rest ∧ digits ≠ [] ∧ n = placeValue digits ∧ n ≤ limit

/-- The run of digits at the front of a text is read as a whole, if its number is within the limit,
    or not at all. -/
theorem boundedRun_eq_some_iff_hasNumber {limit n : Nat} {text rest : List Char} :
    boundedRun limit text = some (n, rest) ↔ HasNumber limit text n rest := by
  rw [boundedRun_eq_some_iff]
  constructor
  · intro h
    obtain ⟨digits, htext, hall, hne, hends, hn, hle⟩ := h
    rw [Decimal.value_eq_placeValue] at hn
    exact ⟨digits, ⟨htext, hall, hends⟩, hne, hn, hle⟩
  · intro h
    obtain ⟨digits, ⟨htext, hall, hends⟩, hne, hn, hle⟩ := h
    rw [← Decimal.value_eq_placeValue] at hn
    exact ⟨digits, htext, hall, hne, hends, hn, hle⟩

/-- A number behind a sign, which may be missing. -/
theorem offsetMinutes_eq_some_iff_hasNumber {m : Int} {text rest : List Char} :
    offsetMinutes text = some (m, rest) ↔
      ∃ negative mark behind n, SignText negative mark ∧ text = mark ++ behind ∧
        HasNumber 2147483647 behind n rest ∧ m = signed negative n := by
  rw [offsetMinutes_eq_some_iff]
  constructor
  · intro h
    obtain ⟨taken, ⟨negative, mark, digits, hmark, hne, hall, hle, rfl, rfl⟩, hends, rfl⟩ := h
    rw [Decimal.value_eq_placeValue] at hle ⊢
    -- The sign is no digit, so that the run begins behind it
    exact ⟨negative, mark, digits ++ rest, placeValue digits, hmark, List.append_assoc _ _ _,
      ⟨digits, ⟨rfl, hall, hends⟩, hne, rfl, hle⟩, rfl⟩
  · intro h
    obtain ⟨negative, mark, behind, n, hmark, rfl, hnumber, rfl⟩ := h
    -- The mark and the digits behind it are what is taken
    obtain ⟨digits, ⟨rfl, hall, hends⟩, hne, rfl, hle⟩ := hnumber
    rw [← Decimal.value_eq_placeValue] at hle ⊢
    exact ⟨mark ++ digits, ⟨negative, mark, digits, hmark, hne, hall, hle, rfl, rfl⟩, hends,
      (List.append_assoc _ _ _).symm⟩

/-- As many characters as are asked for, each of them a digit. -/
theorem fixedDigits_eq_some_iff_take {count n : Nat} {text rest : List Char} :
    fixedDigits count text = some (n, rest) ↔
      1 ≤ count ∧ count ≤ text.length ∧ (∀ c ∈ text.take count, c.isDigit = true) ∧
        n = placeValue (text.take count) ∧ n ≤ 4294967295 ∧ rest = text.drop count := by
  rw [fixedDigits_eq_some_iff]
  constructor
  · intro h
    obtain ⟨digits, rfl, hall, rfl, hpos, hn, hle⟩ := h
    rw [Decimal.value_eq_placeValue] at hn
    -- What is taken is as long as the count says, so that the count takes it off again
    rw [List.take_left, List.drop_left, List.length_append]
    exact ⟨hpos, Nat.le_add_right _ _, hall, hn, hle, rfl⟩
  · intro h
    obtain ⟨hpos, hlen, hall, hn, hle, rfl⟩ := h
    rw [← Decimal.value_eq_placeValue] at hn
    exact ⟨text.take count, (List.take_append_drop count text).symm, hall,
      List.length_take_of_le hlen, hpos, hn, hle⟩

/-- The readers of numbers are exact for every text. Years, seconds since the epoch and offsets in
    minutes take the whole run of digits, and only if its number is within the limit. A fixed number
    of digits is taken if so many are there and denote a number of 32 bits. One or two digits are two
    wherever two are there. -/
theorem numbers_exact (text : List Char) :
    (∀ n rest, year text = some (n, rest) ↔ HasNumber (2 ^ 31 - 1) text n rest) ∧
      (∀ n rest, epochSeconds text = some (n, rest) ↔ HasNumber (2 ^ 63 - 1) text n rest) ∧
      (∀ m rest, offsetMinutes text = some (m, rest) ↔
        ∃ negative mark behind n, SignText negative mark ∧ text = mark ++ behind ∧
          HasNumber (2 ^ 31 - 1) behind n rest ∧ m = if negative then -(n : Int) else n) ∧
      (∀ count n rest, fixedDigits count text = some (n, rest) ↔
        1 ≤ count ∧ count ≤ text.length ∧ (∀ c ∈ text.take count, c.isDigit = true) ∧
          n = placeValue (text.take count) ∧ n ≤ 2 ^ 32 - 1 ∧ rest = text.drop count) ∧
      ∀ n rest, shortDigits text = some (n, rest) ↔
        ∃ digits, text = digits ++ rest ∧ (∀ c ∈ digits, c.isDigit = true) ∧
          (digits.length = 2 ∨ digits.length = 1 ∧ EndsRun rest) ∧ n = placeValue digits := by
  -- Years and epoch seconds differ in their limits only
  refine ⟨?_, ?_, ?_, ?_, ?_⟩
  · intro n rest
    exact boundedRun_eq_some_iff_hasNumber
  · intro n rest
    exact boundedRun_eq_some_iff_hasNumber
  · intro m rest
    exact offsetMinutes_eq_some_iff_hasNumber
  · intro count n rest
    exact fixedDigits_eq_some_iff_take
  · intro n rest
    rw [shortDigits_eq_some_iff]
    simp only [Decimal.value_eq_placeValue]

-- The first nine of these digits would be within the limit
example : year "2147483648".toList = none := by decide

end Field

end TimePattern
