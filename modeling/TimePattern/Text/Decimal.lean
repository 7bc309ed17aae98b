/-!
# Decimal text

Numbers as runs of ASCII digits, written by `ofNat` and `ofInt` and read back by `value`.

* `value_ofNat`        `value (ofNat width n) = n`, whatever the width
* `isDigit_of_mem_ofNat`  nothing but digits is written for a natural number
* `flatten_piecesOfInt`  the pieces in which a number is written
* `run_append_rest`    `run s ++ rest s = s`
-/

namespace TimePattern.Decimal

/-- The digits of `n`, with leading zeros up to `width` characters. -/
def ofNat (width n : Nat) : List Char :=
  (Nat.toDigits 10 n).leftpad width '0'

/-- The digits of `n` behind a minus sign if it is negative. The sign counts towards `width`,
    and the zeros stand behind it. -/
def ofInt (width : Nat) (n : Int) : List Char :=
  if n < 0 then '-' :: ofNat (width - 1) n.natAbs else ofNat width n.natAbs

/-- The pieces in which `ofNat` is written: each leading zero for itself, and then the digits. -/
def piecesOfNat (width n : Nat) : List (List Char) :=
  List.replicate (width - (Nat.toDigits 10 n).length) ['0'] ++ [Nat.toDigits 10 n]

/-- The pieces in which `ofInt` is written. The sign is one of its own. -/
def piecesOfInt (width : Nat) (n : Int) : List (List Char) :=
  if n < 0 then ['-'] :: piecesOfNat (width - 1) n.natAbs else piecesOfNat width n.natAbs

/-- The number that a run of digits denotes. -/
def value (digits : List Char) : Nat := Nat.ofDigitChars 10 digits 0

/-- The digits at the front of a text, as many as there are. -/
def run (text : List Char) : List Char := text.takeWhile Char.isDigit

/-- What follows the digits at the front of a text. -/
def rest (text : List Char) : List Char := text.dropWhile Char.isDigit

/-! ## Writing and reading back -/

/-- The leading zeros and the digits of a number. -/
theorem ofNat_eq (width n : Nat) :
    ofNat width n =
      List.replicate (width - (Nat.toDigits 10 n).length) '0' ++ Nat.toDigits 10 n := rfl

/-- Leading zeros do not change the number. -/
@[simp] theorem value_ofNat (width n : Nat) : value (ofNat width n) = n := by
  rw [value, ofNat_eq, Nat.ofDigitChars_append, Nat.ofDigitChars_replicate_zero, Nat.mul_zero,
    Nat.ofDigitChars_ten_toDigits]

/-- Nothing but digits is written for a natural number. -/
theorem isDigit_of_mem_ofNat {width n : Nat} {c : Char} (h : c ∈ ofNat width n) :
    c.isDigit = true := by
  rw [ofNat_eq, List.mem_append] at h
  rcases h with h | h
  · rw [(List.mem_replicate.1 h).2]; rfl
  · exact Nat.isDigit_of_mem_toDigits (by decide) (by decide) h

/-- At least one digit is written, also for 0. -/
theorem ofNat_ne_nil (width n : Nat) : ofNat width n ≠ [] := by
  simp [ofNat_eq]

/-- A number without a minus sign is written like a natural number. -/
theorem ofInt_of_nonneg {width : Nat} {n : Int} (h : 0 ≤ n) :
    ofInt width n = ofNat width n.natAbs := by
  rw [ofInt, if_neg (by omega)]

/-- The pieces make up the digits, zeros included. -/
@[simp] theorem flatten_piecesOfNat (width n : Nat) :
    (piecesOfNat width n).flatten = ofNat width n := by
  simp [piecesOfNat, ofNat_eq]

/-- The pieces make up the text of the number, its sign included. -/
@[simp] theorem flatten_piecesOfInt (width : Nat) (n : Int) :
    (piecesOfInt width n).flatten = ofInt width n := by
  unfold piecesOfInt ofInt
  split <;> simp

/-! ## Runs -/

/-- Nothing of a text gets lost between its digits and the rest. -/
@[simp] theorem run_append_rest (text : List Char) : run text ++ rest text = text :=
  List.takeWhile_append_dropWhile

/-- The run at the front holds nothing but digits. -/
theorem isDigit_of_mem_run {text : List Char} {c : Char} (h : c ∈ run text) :
    c.isDigit = true := by
  induction text with
  | nil => simp [run] at h
  | cons d text ih =>
    simp only [run, List.takeWhile_cons] at h
    split at h
    · rcases List.mem_cons.1 h with rfl | h
      · assumption
      · exact ih h
    · simp at h

end TimePattern.Decimal
