import TimePattern.Proofs.Field.Digits

/-!
# What the readers of offsets find

An offset is a sign, which may be missing, in front of digits. Since a sign is no digit, the text of
an offset tells whether it has one, and the readers of offsets take the texts of the forms
`OffsetText` and `MinutesText` and no others.

## Key results

- `fixedDigits_eq_some_iff_digitText`: a few digits, whose value always fits
- `exists_signText` / `sign_append`: a sign and what stands behind it
- `offsetColon_eq_some_iff`, `offsetCompact_eq_some_iff`: hours and minutes of two digits each
- `offsetMinutes_eq_some_iff`: minutes of any number of digits
-/

namespace TimePattern.Field

open Decimal (EndsRun)

/-! ## A fixed number of digits -/

/-- A text of so many digits. -/
def DigitText (count : Nat) (text : List Char) : Prop :=
  text.length = count ∧ ∀ c ∈ text, c.isDigit = true

theorem DigitText.ne_nil {count : Nat} {text : List Char} (h : DigitText count text)
    (h0 : 0 < count) : text ≠ [] := by
  apply List.length_pos_iff.1
  rw [h.1]
  exact h0

/-- So many digits denote a number below that power of ten. -/
theorem DigitText.value_lt {count : Nat} {text : List Char} (h : DigitText count text) :
    Decimal.value text < 10 ^ count := by
  rw [← h.1]
  exact Decimal.value_lt h.2

/-- Nine digits fit 32 bits in any case, so a few digits are read whatever they are. -/
theorem fixedDigits_eq_some_iff_digitText {count n : Nat} (h0 : 0 < count) (h9 : count ≤ 9)
    {text rest : List Char} :
    fixedDigits count text = some (n, rest) ↔
      ∃ digits, DigitText count digits ∧ n = Decimal.value digits ∧ text = digits ++ rest := by
  rw [fixedDigits_eq_some_iff]
  constructor
  · intro h
    obtain ⟨digits, htext, hall, hlen, -, hn, -⟩ := h
    exact ⟨digits, ⟨hlen, hall⟩, hn, htext⟩
  · intro h
    obtain ⟨digits, hdigits, hn, htext⟩ := h
    have hlt := hdigits.value_lt
    -- A number of nine digits is far from the limit
    have hpow : 10 ^ count ≤ 10 ^ 9 := Nat.pow_le_pow_right (by decide) h9
    exact ⟨digits, htext, hdigits.2, hdigits.1, h0, hn, by omega⟩

/-- So many digits are read before any text. -/
theorem fixedDigits_digitText {count : Nat} {digits : List Char} (h : DigitText count digits)
    (h0 : 0 < count) (h9 : count ≤ 9) (rest : List Char) :
    fixedDigits count (digits ++ rest) = some (Decimal.value digits, rest) :=
  (fixedDigits_eq_some_iff_digitText h0 h9).2 ⟨digits, h, rfl, rfl⟩

/-! ## Signs -/

/-- The texts of a sign, where `true` is a minus. No text at all counts as a plus. -/
inductive SignText : Bool → List Char → Prop
  | none : SignText false []
  | plus : SignText false ['+']
  | minus : SignText true ['-']

/-- A text is its sign and what stands behind it. -/
theorem exists_signText (text : List Char) :
    ∃ mark, SignText (sign text).1 mark ∧ text = mark ++ (sign text).2 := by
  unfold sign
  split
  · exact ⟨['+'], .plus, rfl⟩
  · exact ⟨['-'], .minus, rfl⟩
  · exact ⟨[], .none, rfl⟩

/-- No digit is taken for a sign. -/
theorem sign_append {negative : Bool} {mark digits : List Char} (hmark : SignText negative mark)
    (hne : digits ≠ []) (hdigits : ∀ c ∈ digits, c.isDigit = true) (rest : List Char) :
    sign (mark ++ (digits ++ rest)) = (negative, digits ++ rest) := by
  cases hmark with
  | plus => rfl
  | minus => rfl
  | none =>
    cases digits with
    | nil => exact absurd rfl hne
    | cons c digits =>
      have hc := hdigits c List.mem_cons_self
      -- A text without a mark begins with a digit, which is neither sign
      have hplus : c ≠ '+' := Decimal.ne_of_isDigit hc rfl
      have hminus : c ≠ '-' := Decimal.ne_of_isDigit hc rfl
      simp [sign, hplus, hminus]

/-! ## Offsets -/

/-- The sign does not change how many minutes there are. -/
theorem natAbs_signed (negative : Bool) (minutes : Nat) :
    (signed negative minutes).natAbs = minutes := by
  unfold signed
  split <;> omega

/-- The texts of an offset: a sign, two digits of hours, a separator and two digits of minutes. -/
def OffsetText (separator : List Char) (m : Int) (text : List Char) : Prop :=
  ∃ negative mark hours minutes, SignText negative mark ∧ DigitText 2 hours ∧
    DigitText 2 minutes ∧ text = mark ++ (hours ++ (separator ++ minutes)) ∧
    m = signed negative (Decimal.value hours * 60 + Decimal.value minutes)

/-- An offset is no empty text, since it has hours. -/
theorem OffsetText.ne_nil {separator : List Char} {m : Int} {text : List Char}
    (h : OffsetText separator m text) : text ≠ [] := by
  obtain ⟨negative, mark, hours, minutes, -, hhours, -, rfl, -⟩ := h
  apply List.append_ne_nil_of_right_ne_nil
  exact List.append_ne_nil_of_left_ne_nil (hhours.ne_nil (by decide)) _

/-- Two digits of hours, a separator and two digits of minutes behind a sign are an offset. -/
theorem exists_offsetText {text hours separator minutes rest : List Char}
    (hhours : DigitText 2 hours) (hminutes : DigitText 2 minutes)
    (hbehind : (sign text).2 = hours ++ (separator ++ (minutes ++ rest))) :
    ∃ taken, OffsetText separator
        (signed (sign text).1 (Decimal.value hours * 60 + Decimal.value minutes)) taken ∧
      text = taken ++ rest := by
  -- What stands in front of the hours is the sign
  obtain ⟨mark, hmark, htext⟩ := exists_signText text
  rw [hbehind] at htext
  refine ⟨mark ++ (hours ++ (separator ++ minutes)), ?_, by simpa using htext⟩
  exact ⟨_, mark, hours, minutes, hmark, hhours, hminutes, rfl, rfl⟩

/-- A literal takes its own character and no other. -/
theorem literal_eq_some_iff {c d : Char} {text rest : List Char} :
    literal c text = some (d, rest) ↔ d = c ∧ text = [c] ++ rest := by
  cases text with
  | nil => simp [literal]
  | cons e text =>
    by_cases he : e = c
    · simp [literal, he, eq_comm]
    · simp [literal, he]

/-- The texts with a colon are read, whatever follows. -/
theorem offsetColon_eq_some_iff {m : Int} {text rest : List Char} :
    offsetColon text = some (m, rest) ↔
      ∃ taken, OffsetText [':'] m taken ∧ text = taken ++ rest := by
  constructor
  · intro h
    simp only [offsetColon, Option.bind_eq_bind, Option.bind_eq_some_iff, Prod.exists] at h
    obtain ⟨h₁, text₁, hhours, c, text₂, hcolon, m₁, text₃, hminutes, h⟩ := h
    cases h
    -- Each reader has taken its part of the text
    rw [fixedDigits_eq_some_iff_digitText (by decide) (by decide)] at hhours hminutes
    obtain ⟨hours, hhours, rfl, hbehind⟩ := hhours
    obtain ⟨-, rfl⟩ := literal_eq_some_iff.1 hcolon
    obtain ⟨minutes, hminutes, rfl, rfl⟩ := hminutes
    exact exists_offsetText hhours hminutes hbehind
  · intro h
    obtain ⟨taken, ⟨negative, mark, hours, minutes, hmark, hhours, hminutes, rfl, rfl⟩, rfl⟩ := h
    -- The first digit of the hours ends the sign, the colon ends the hours
    have hsign := sign_append hmark (hhours.ne_nil (by decide)) hhours.2
      (':' :: (minutes ++ rest))
    have hfirst := fixedDigits_digitText hhours (by decide) (by decide) (':' :: (minutes ++ rest))
    have hcolon : literal ':' (':' :: (minutes ++ rest)) = some (':', minutes ++ rest) :=
      literal_eq_some_iff.2 ⟨rfl, rfl⟩
    have hsecond := fixedDigits_digitText hminutes (by decide) (by decide) rest
    simp [offsetColon, hsign, hfirst, hcolon, hsecond]

/-- The texts without a separator are read, whatever follows. -/
theorem offsetCompact_eq_some_iff {m : Int} {text rest : List Char} :
    offsetCompact text = some (m, rest) ↔
      ∃ taken, OffsetText [] m taken ∧ text = taken ++ rest := by
  constructor
  · intro h
    simp only [offsetCompact, Option.bind_eq_bind, Option.bind_eq_some_iff, Prod.exists] at h
    obtain ⟨h₁, text₁, hhours, m₁, text₂, hminutes, h⟩ := h
    cases h
    rw [fixedDigits_eq_some_iff_digitText (by decide) (by decide)] at hhours hminutes
    obtain ⟨hours, hhours, rfl, hbehind⟩ := hhours
    obtain ⟨minutes, hminutes, rfl, rfl⟩ := hminutes
    exact exists_offsetText hhours hminutes hbehind
  · intro h
    obtain ⟨taken, ⟨negative, mark, hours, minutes, hmark, hhours, hminutes, rfl, rfl⟩, rfl⟩ := h
    -- Where no colon parts them, the minutes begin behind the second digit of the hours
    have hsign := sign_append hmark (hhours.ne_nil (by decide)) hhours.2 (minutes ++ rest)
    have hfirst := fixedDigits_digitText hhours (by decide) (by decide) (minutes ++ rest)
    have hsecond := fixedDigits_digitText hminutes (by decide) (by decide) rest
    simp [offsetCompact, hsign, hfirst, hsecond]

/-- The texts of an offset in minutes: a sign and digits whose value is within the range of an
    offset without its sign. -/
def MinutesText (m : Int) (text : List Char) : Prop :=
  ∃ negative mark digits, SignText negative mark ∧ digits ≠ [] ∧ (∀ c ∈ digits, c.isDigit = true) ∧
    Decimal.value digits ≤ 2147483647 ∧ text = mark ++ digits ∧
    m = signed negative (Decimal.value digits)

/-- An offset in minutes is no empty text, since it has a digit. -/
theorem MinutesText.ne_nil {m : Int} {text : List Char} (h : MinutesText m text) : text ≠ [] := by
  obtain ⟨negative, mark, digits, -, hne, -, -, rfl, -⟩ := h
  exact List.append_ne_nil_of_right_ne_nil mark hne

/-- The texts in minutes are read where no further digit follows. -/
theorem offsetMinutes_eq_some_iff {m : Int} {text rest : List Char} :
    offsetMinutes text = some (m, rest) ↔
      ∃ taken, MinutesText m taken ∧ EndsRun rest ∧ text = taken ++ rest := by
  constructor
  · intro h
    simp only [offsetMinutes, Option.bind_eq_bind, Option.bind_eq_some_iff, Prod.exists] at h
    obtain ⟨n, text₁, hdigits, h⟩ := h
    cases h
    obtain ⟨digits, hbehind, hall, hne, hends, rfl, hle⟩ := boundedRun_eq_some_iff.1 hdigits
    -- The digits stand behind the sign, and their run ends with the text that is taken
    obtain ⟨mark, hmark, htext⟩ := exists_signText text
    rw [hbehind] at htext
    exact ⟨_, ⟨_, mark, digits, hmark, hne, hall, hle, rfl, rfl⟩, hends, by simpa using htext⟩
  · intro h
    obtain ⟨taken, ⟨negative, mark, digits, hmark, hne, hall, hle, rfl, rfl⟩, hends, rfl⟩ := h
    -- The first digit ends the sign, and the end of the run ends the digits
    have hsign := sign_append hmark hne hall rest
    have hdigits := boundedRun_eq_some_iff.2 ⟨digits, rfl, hall, hne, hends, rfl, hle⟩
    simp [offsetMinutes, hsign, hdigits]

end TimePattern.Field
