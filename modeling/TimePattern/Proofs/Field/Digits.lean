import TimePattern.Field
import TimePattern.Proofs.Text.DigitRun

/-!
# What the readers of digits find

Each reader of digits splits the text into the digits that it takes and the rest, and its value
is the number that these digits denote. The readers differ in how many digits they take.

## Key results

- `fixedDigits_eq_some_iff`: exactly so many digits
- `shortDigits_eq_some_iff`: two digits, or one where the run ends
- `boundedRun_eq_some_iff`: the whole run
-/

namespace TimePattern.Field

open Decimal (EndsRun)

/-- The value of a run is given if there is a digit and the value is within the limit. -/
theorem bounded?_eq_some_iff {limit n : Nat} {digits : List Char} :
    bounded? limit digits = some n ↔
      digits ≠ [] ∧ Decimal.value digits ≤ limit ∧ n = Decimal.value digits := by
  unfold bounded?
  split
  · next h => simp [h, eq_comm]
  · next h =>
    simp only [reduceCtorEq, false_iff, not_and]
    exact fun hne hle => absurd ⟨hne, hle⟩ h

/-- Exactly so many digits, but not none, whose value fits 32 bits. -/
theorem fixedDigits_eq_some_iff {count n : Nat} {text rest : List Char} :
    fixedDigits count text = some (n, rest) ↔
      ∃ digits, text = digits ++ rest ∧ (∀ c ∈ digits, c.isDigit = true) ∧
        digits.length = count ∧ 0 < count ∧ n = Decimal.value digits ∧ n ≤ 4294967295 := by
  rw [fixedDigits]
  constructor
  · intro h
    split at h
    · next hdigits =>
      -- What is cut off the front has all the digits that were asked for
      obtain ⟨hlen, hall⟩ := hdigits
      simp only [Option.map_eq_some_iff, Prod.mk.injEq] at h
      obtain ⟨m, hm, rfl, rfl⟩ := h
      obtain ⟨hne, hle, rfl⟩ := bounded?_eq_some_iff.1 hm
      have hpos := List.length_pos_iff.2 hne
      exact ⟨text.take count, (List.take_append_drop count text).symm,
        List.all_eq_true.1 hall, hlen, by omega, rfl, hle⟩
    · cases h
  · intro h
    obtain ⟨digits, rfl, hall, rfl, hpos, rfl, hle⟩ := h
    have hvalue := bounded?_eq_some_iff.2 ⟨List.length_pos_iff.1 hpos, hle, rfl⟩
    -- The text is cut where the digits end
    simp only [List.take_left, List.drop_left]
    rw [if_pos ⟨trivial, List.all_eq_true.2 hall⟩, hvalue]
    rfl

theorem fixedDigits_rest {count n : Nat} {text rest : List Char}
    (h : fixedDigits count text = some (n, rest)) : rest = text.drop count := by
  obtain ⟨digits, rfl, -, rfl, -⟩ := fixedDigits_eq_some_iff.1 h
  exact List.drop_left.symm

/-- Two digits if there are two, else one. -/
theorem shortDigits_eq_some_iff {n : Nat} {text rest : List Char} :
    shortDigits text = some (n, rest) ↔
      ∃ digits, text = digits ++ rest ∧ (∀ c ∈ digits, c.isDigit = true) ∧
        (digits.length = 2 ∨ digits.length = 1 ∧ EndsRun rest) ∧ n = Decimal.value digits := by
  constructor
  · -- Two digits, one before another character, and one at the end of the text
    intro h
    unfold shortDigits at h
    split at h
    · next a b text =>
      split at h
      · next ha =>
        split at h
        · next hb =>
          simp only [Option.some.injEq, Prod.mk.injEq] at h
          obtain ⟨rfl, rfl⟩ := h
          exact ⟨[a, b], rfl, by simp [ha, hb], .inl rfl, rfl⟩
        · next hb =>
          simp only [Option.some.injEq, Prod.mk.injEq] at h
          obtain ⟨rfl, rfl⟩ := h
          exact ⟨[a], rfl, by simp [ha], .inr ⟨rfl, by simpa using hb⟩, rfl⟩
      · cases h
    · next a =>
      split at h
      · next ha =>
        simp only [Option.some.injEq, Prod.mk.injEq] at h
        obtain ⟨rfl, rfl⟩ := h
        exact ⟨[a], rfl, by simp [ha], .inr ⟨rfl, by simp⟩, rfl⟩
      · cases h
    · cases h
  · intro h
    obtain ⟨digits, rfl, hall, hlen | ⟨hlen, hends⟩, rfl⟩ := h
    · -- Two digits are two characters, and both are tested
      obtain ⟨a, b, rfl⟩ : ∃ a b, digits = [a, b] := by
        match digits, hlen with
        | [a, b], _ => exact ⟨a, b, rfl⟩
      have ha := hall a (by simp)
      have hb := hall b (by simp)
      simp [shortDigits, ha, hb]
    · obtain ⟨a, rfl⟩ := List.length_eq_one_iff.1 hlen
      have ha := hall a (by simp)
      -- A single digit is taken alone only if the text ends or goes on with another character
      cases rest with
      | nil => simp [shortDigits, ha]
      | cons c rest => simp [shortDigits, ha, Decimal.endsRun_cons.1 hends]

/-- The whole run of digits, if there is one and its value is within the limit. -/
theorem boundedRun_eq_some_iff {limit n : Nat} {text rest : List Char} :
    boundedRun limit text = some (n, rest) ↔
      ∃ digits, text = digits ++ rest ∧ (∀ c ∈ digits, c.isDigit = true) ∧ digits ≠ [] ∧
        EndsRun rest ∧ n = Decimal.value digits ∧ n ≤ limit := by
  rw [boundedRun]
  constructor
  · intro h
    simp only [Option.map_eq_some_iff, Prod.mk.injEq] at h
    obtain ⟨m, hm, rfl, rfl⟩ := h
    obtain ⟨hne, hle, rfl⟩ := bounded?_eq_some_iff.1 hm
    -- What is taken is the run at the front, behind which no digit stands
    exact ⟨Decimal.run text, (Decimal.run_append_rest text).symm,
      fun c hc => Decimal.isDigit_of_mem_run hc, hne, Decimal.endsRun_rest text, rfl, hle⟩
  · -- Digits before a text that ends the run are the run
    intro h
    obtain ⟨digits, rfl, hall, hne, hends, rfl, hle⟩ := h
    rw [Decimal.run_append hall hends, Decimal.rest_append hall hends,
      bounded?_eq_some_iff.2 ⟨hne, hle, rfl⟩]
    rfl

/-- Where no digit stands, no run begins. -/
theorem boundedRun_eq_none_of_endsRun {limit : Nat} {text : List Char} (h : EndsRun text) :
    boundedRun limit text = none := by
  have hnone : ∀ c ∈ ([] : List Char), c.isDigit = true := by simp
  have hrun : Decimal.run text = [] := Decimal.run_append hnone h
  rw [boundedRun, hrun]
  rfl

end TimePattern.Field
