import Mathlib.Algebra.Group.Nat.Defs
import TimePattern.Text.Decimal

/-!
# Digits at the front of a text

Where a run of digits ends, how many digits a number is written with, and how large the number
of a few digits can be.

## Key results

- `run_append` / `rest_append`: digits are taken up to the first character that is none
- `length_ofNat_of_lt` / `lt_length_ofNat`: the length of a written number
- `value_append`: digits in front of others count as many powers of ten as those are
- `value_lt`: a few digits denote a number of that many digits
-/

namespace TimePattern.Decimal

/-! ## Ends of runs -/

/-- No digit stands at the front of the text, so that a run of digits before it ends there. -/
def EndsRun (text : List Char) : Prop := ∀ c ∈ text.head?, c.isDigit = false

instance (text : List Char) : Decidable (EndsRun text) :=
  match text with
  | [] => isTrue (by simp [EndsRun])
  | c :: _ => decidable_of_iff (c.isDigit = false) (by simp [EndsRun])

@[simp] theorem endsRun_nil : EndsRun [] := by simp [EndsRun]

/-- A run ends before a character that is no digit. -/
@[simp] theorem endsRun_cons {c : Char} {text : List Char} :
    EndsRun (c :: text) ↔ c.isDigit = false := by simp [EndsRun]

/-- A text of digits and what follows it are taken apart where the digits end. -/
theorem run_append {digits text : List Char} (hdigits : ∀ c ∈ digits, c.isDigit = true)
    (htext : EndsRun text) : run (digits ++ text) = digits := by
  induction digits with
  | nil =>
    -- No digits at all: nothing is taken from a text that does not begin with one
    cases text with
    | nil => rfl
    | cons c text => simp [run, endsRun_cons.1 htext]
  | cons c digits ih =>
    have hc := hdigits c List.mem_cons_self
    have hrun := ih fun d hd => hdigits d (List.mem_cons_of_mem c hd)
    simp only [run] at hrun
    simp [run, hc, hrun]

@[inherit_doc run_append]
theorem rest_append {digits text : List Char} (hdigits : ∀ c ∈ digits, c.isDigit = true)
    (htext : EndsRun text) : rest (digits ++ text) = text := by
  -- The run is what the digits are, so the rest is what is left
  have hsplit := run_append_rest (digits ++ text)
  rw [run_append hdigits htext] at hsplit
  exact List.append_cancel_left hsplit

/-- What stands behind all digits at the front does not begin with one. -/
theorem endsRun_rest (text : List Char) : EndsRun (rest text) := by
  intro c hc
  have hhead := List.head?_dropWhile_not Char.isDigit text
  rw [rest] at hc
  rw [Option.mem_def.1 hc] at hhead
  exact hhead

/-! ## Lengths -/

/-- A number is as long as its digits, or as it is padded to. -/
theorem length_ofNat (width n : Nat) :
    (ofNat width n).length = max width (Nat.toDigits 10 n).length := by
  rw [ofNat_eq, List.length_append, List.length_replicate]
  omega

/-- A number that has no more digits than it is padded to is written with exactly so many. -/
theorem length_ofNat_of_lt {width n : Nat} (hwidth : 0 < width) (h : n < 10 ^ width) :
    (ofNat width n).length = width := by
  -- A number below that power of ten needs no more digits
  have hlen := (Nat.length_toDigits_le_iff (by decide) hwidth).2 h
  rw [length_ofNat]
  omega

/-- A number of more digits is written with more, whatever the padding. -/
theorem lt_length_ofNat {width n k : Nat} (hk : 0 < k) (h : 10 ^ k ≤ n) :
    k < (ofNat width n).length := by
  have hlen := mt (Nat.length_toDigits_le_iff (n := n) (b := 10) (by decide) hk).1 (by omega)
  rw [length_ofNat]
  omega

/-! ## Values -/

/-- A digit is no other character. -/
theorem ne_of_isDigit {c d : Char} (hc : c.isDigit = true) (hd : d.isDigit = false) : c ≠ d := by
  intro heq
  rw [heq, hd] at hc
  cases hc

/-- No digit counts more than 9. -/
theorem digit_le {c : Char} (h : c.isDigit = true) : c.toNat - '0'.toNat ≤ 9 := by
  -- Digits lie between 0 and 9 in the order of characters
  have hle : c.toNat ≤ '9'.toNat := by
    simp only [Char.isDigit, Bool.and_eq_true, decide_eq_true_eq] at h
    exact h.2
  have hnine : '9'.toNat = '0'.toNat + 9 := rfl
  omega

/-- The first digit counts as many powers of ten as there are digits behind it. -/
theorem value_cons (c : Char) (digits : List Char) :
    value (c :: digits) = 10 ^ digits.length * (c.toNat - '0'.toNat) + value digits := by
  rw [value, Nat.ofDigitChars_cons, Nat.ofDigitChars_eq_ofDigitChars_zero, Nat.mul_zero,
    Nat.zero_add, value]

/-- Digits in front of others count as many powers of ten as there are digits behind them. -/
theorem value_append (digits more : List Char) :
    value (digits ++ more) = 10 ^ more.length * value digits + value more := by
  rw [value, Nat.ofDigitChars_append, Nat.ofDigitChars_eq_ofDigitChars_zero, value, value]

/-- If digits are left out at the end, then at most a tenth of the number is left. -/
theorem ten_mul_value_take_le {digits : List Char} {count : Nat} (h : count < digits.length) :
    10 * value (digits.take count) ≤ value digits := by
  have hsplit := value_append (digits.take count) (digits.drop count)
  have hlen : 1 ≤ (digits.drop count).length := by simp; omega
  -- One digit less is at least one power of ten less
  have hpow : 10 ^ 1 ≤ 10 ^ (digits.drop count).length := Nat.pow_le_pow_right (by decide) hlen
  have hmul := Nat.mul_le_mul_right (value (digits.take count)) hpow
  rw [List.take_append_drop] at hsplit
  omega

/-- As many digits denote a number below that power of ten. -/
theorem value_lt {digits : List Char} (h : ∀ c ∈ digits, c.isDigit = true) :
    value digits < 10 ^ digits.length := by
  induction digits with
  | nil => simp [value]
  | cons c digits ih =>
    have hc := digit_le (h c List.mem_cons_self)
    have hrest := ih fun d hd => h d (List.mem_cons_of_mem c hd)
    -- The first digit leaves a whole power of ten to the digits behind it
    have hmul := Nat.mul_le_mul_left (10 ^ digits.length) hc
    rw [value_cons, List.length_cons, Nat.pow_succ]
    omega

end TimePattern.Decimal
