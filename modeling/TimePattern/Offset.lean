import TimePattern.Text.Decimal

/-!
# Written offsets

An offset from UTC is written as a sign, hours and minutes of two digits at least.

* `compact_eq_filter_colon`   the compact form is the other one without its colon
-/

namespace TimePattern.Offset

/-- The sign of an offset in minutes; no offset counts as east. -/
def sign (minutes : Int) : Char := if minutes < 0 then '-' else '+'

/-- Whole hours of an offset, without the sign. -/
def hours (minutes : Int) : Nat := minutes.natAbs / 60

/-- Minutes beyond the whole hours, without the sign. -/
def minutesOfHour (minutes : Int) : Nat := minutes.natAbs % 60

/-- An offset such as `+01:30`. -/
def colon (minutes : Int) : List Char :=
  sign minutes ::
    (Decimal.ofNat 2 (hours minutes) ++ ':' :: Decimal.ofNat 2 (minutesOfHour minutes))

/-- An offset such as `+0130`. -/
def compact (minutes : Int) : List Char :=
  sign minutes :: (Decimal.ofNat 2 (hours minutes) ++ Decimal.ofNat 2 (minutesOfHour minutes))

/-- The pieces in which the form with a colon is written. -/
def colonPieces (minutes : Int) : List (List Char) :=
  [sign minutes] :: (Decimal.piecesOfNat 2 (hours minutes) ++
    [':'] :: Decimal.piecesOfNat 2 (minutesOfHour minutes))

/-- The pieces in which the compact form is written. -/
def compactPieces (minutes : Int) : List (List Char) :=
  [sign minutes] :: (Decimal.piecesOfNat 2 (hours minutes) ++
    Decimal.piecesOfNat 2 (minutesOfHour minutes))

/-- The pieces make up the form with a colon. -/
@[simp] theorem flatten_colonPieces (minutes : Int) :
    (colonPieces minutes).flatten = colon minutes := by
  simp [colonPieces, colon]

@[simp] theorem flatten_compactPieces (minutes : Int) :
    (compactPieces minutes).flatten = compact minutes := by
  simp [compactPieces, compact]

/-- There is no colon among digits. -/
theorem filter_ofNat (width n : Nat) :
    (Decimal.ofNat width n).filter (· ≠ ':') = Decimal.ofNat width n := by
  rw [List.filter_eq_self]
  intro c hc
  have := Decimal.isDigit_of_mem_ofNat hc
  simp only [ne_eq, decide_not, Bool.not_eq_eq_eq_not, Bool.not_true, decide_eq_false_iff_not]
  rintro rfl
  exact absurd this (by decide)

/-- The compact form is the other one without its colon. -/
theorem compact_eq_filter_colon (minutes : Int) :
    compact minutes = (colon minutes).filter (· ≠ ':') := by
  have hsign : sign minutes ≠ ':' := by
    unfold sign
    split <;> decide
  simp only [compact, colon, List.filter_cons, List.filter_append, filter_ofNat]
  simp [hsign]

end TimePattern.Offset
