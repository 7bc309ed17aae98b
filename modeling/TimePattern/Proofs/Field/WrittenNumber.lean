import TimePattern.Offset
import TimePattern.Proofs.Field.OffsetText

/-!
# Reading written numbers

Each field reader finds the number that was written, and leaves the text behind it. A reader of
a fixed number of digits does so before any text, the others only where the run of digits ends.

## Key results

- `fixedDigits_ofNat`, `shortDigits_ofNat`, `boundedRun_ofNat`: numbers without a sign
- `offsetColon_colon`, `offsetCompact_compact`, `offsetMinutes_ofInt`: offsets
- `offsetColon_colon_eq_none`: an offset of a hundred hours and more cannot be read with a colon
- `offsetCompact_compact_of_lt`: without a colon it is read as a smaller one
- `offsetMinutes_ofInt_eq_none`: an offset in minutes has to have a counterpart of the other sign
-/

namespace TimePattern.Field

open Decimal (EndsRun)

/-! ## Numbers -/

/-- A number is found if it was padded to as many digits as are read. -/
theorem fixedDigits_ofNat {count n : Nat} (hcount : 0 < count) (h : n < 10 ^ count)
    (hmax : n ≤ 4294967295) (text : List Char) :
    fixedDigits count (Decimal.ofNat count n ++ text) = some (n, text) :=
  fixedDigits_eq_some_iff.2 ⟨Decimal.ofNat count n, rfl,
    fun _ hc => Decimal.isDigit_of_mem_ofNat hc, Decimal.length_ofNat_of_lt hcount h, hcount,
    (Decimal.value_ofNat count n).symm, hmax⟩

/-- A number of at most two digits is found where the run ends. -/
theorem shortDigits_ofNat {n : Nat} (h : n < 100) {text : List Char} (htext : EndsRun text) :
    shortDigits (Decimal.ofNat 1 n ++ text) = some (n, text) := by
  have hpos := Nat.length_toDigits_pos (b := 10) (n := n)
  -- A number below 100 has one digit or two
  have htwo := (Nat.length_toDigits_le_iff (n := n) (b := 10) (k := 2) (by decide) (by decide)).2 h
  have hlen := Decimal.length_ofNat 1 n
  refine shortDigits_eq_some_iff.2 ⟨Decimal.ofNat 1 n, rfl,
    fun _ hc => Decimal.isDigit_of_mem_ofNat hc, ?_, (Decimal.value_ofNat 1 n).symm⟩
  -- A second digit is taken in any case; a single one only if nothing extends it
  rcases (by omega : (Decimal.ofNat 1 n).length = 2 ∨ (Decimal.ofNat 1 n).length = 1) with h | h
  · exact .inl h
  · exact .inr ⟨h, htext⟩

/-- A number within the limit is found where the run ends. -/
theorem boundedRun_ofNat {limit width n : Nat} (h : n ≤ limit) {text : List Char}
    (htext : EndsRun text) :
    boundedRun limit (Decimal.ofNat width n ++ text) = some (n, text) :=
  boundedRun_eq_some_iff.2 ⟨Decimal.ofNat width n, rfl,
    fun _ hc => Decimal.isDigit_of_mem_ofNat hc, Decimal.ofNat_ne_nil width n, htext,
    (Decimal.value_ofNat width n).symm, h⟩

/-- A larger number is not, since all of its digits are taken. -/
theorem boundedRun_ofNat_eq_none {limit width n : Nat} (h : limit < n) {text : List Char}
    (htext : EndsRun text) : boundedRun limit (Decimal.ofNat width n ++ text) = none := by
  have hdigits : ∀ c ∈ Decimal.ofNat width n, c.isDigit = true :=
    fun _ hc => Decimal.isDigit_of_mem_ofNat hc
  rw [boundedRun, Decimal.run_append hdigits htext, bounded?, Decimal.value_ofNat,
    if_neg (fun hle => Nat.not_le_of_lt h hle.2)]
  rfl

/-- Two digits from 70 on stand for a year of the 1900s. -/
theorem yearTwoDigit_ofNat {n : Nat} (h70 : 70 ≤ n) (h : n < 100) (text : List Char) :
    yearTwoDigit (Decimal.ofNat 2 n ++ text) = some (1900 + n, text) := by
  -- Both digits are read, and 70 is where the 1900s begin
  rw [yearTwoDigit, fixedDigits_ofNat (by decide) h (by omega)]
  simp only [Option.map_some, yearOfTwoDigits]
  rw [if_neg (by omega)]

/-! ## Offsets -/

/-- A printed sign is read as a minus just for negative offsets. -/
theorem sign_sign (m : Int) (text : List Char) :
    sign (Offset.sign m :: text) = (decide (m < 0), text) := by
  unfold Offset.sign
  split
  · next h => simp [sign, h]
  · next h => simp [sign, h]

/-- The sign that is printed is one of those that are read. -/
theorem signText_sign (m : Int) : SignText (decide (m < 0)) [Offset.sign m] := by
  unfold Offset.sign
  split
  · next h => rw [decide_eq_true h]; exact .minus
  · next h => rw [decide_eq_false h]; exact .plus

/-- A number is its sign and its absolute value. -/
theorem signed_natAbs (m : Int) : signed (decide (m < 0)) m.natAbs = m := by
  unfold signed
  split
  · next h => simp only [decide_eq_true_eq] at h; omega
  · next h => simp only [decide_eq_true_eq] at h; omega

/-- Hours and minutes make up the whole offset. -/
theorem hours_add_minutesOfHour (m : Int) :
    Offset.hours m * 60 + Offset.minutesOfHour m = m.natAbs := by
  unfold Offset.hours Offset.minutesOfHour
  omega

/-- A literal reads its own character. -/
theorem literal_self (c : Char) (text : List Char) : literal c (c :: text) = some (c, text) :=
  if_pos rfl

/-- A number is written with as many digits as it is padded to, if it has no more. -/
theorem digitText_ofNat {count n : Nat} (hcount : 0 < count) (h : n < 10 ^ count) :
    DigitText count (Decimal.ofNat count n) :=
  ⟨Decimal.length_ofNat_of_lt hcount h, fun _ hc => Decimal.isDigit_of_mem_ofNat hc⟩

/-- The hours of an offset are written with two digits if there are less than a hundred. -/
theorem offsetText_of_natAbs_le {m : Int} (h : m.natAbs ≤ 5999) (separator : List Char) :
    OffsetText separator m ([Offset.sign m] ++ (Decimal.ofNat 2 (Offset.hours m) ++
      (separator ++ Decimal.ofNat 2 (Offset.minutesOfHour m)))) := by
  -- Below a hundred hours, two digits have room for hours and minutes
  have hhours : Offset.hours m < 10 ^ 2 := by unfold Offset.hours; omega
  have hminutes : Offset.minutesOfHour m < 10 ^ 2 := by unfold Offset.minutesOfHour; omega
  refine ⟨_, _, _, _, signText_sign m, digitText_ofNat (by decide) hhours,
    digitText_ofNat (by decide) hminutes, rfl, ?_⟩
  rw [Decimal.value_ofNat, Decimal.value_ofNat, hours_add_minutesOfHour, signed_natAbs]

/-- An offset of less than a hundred hours is found before any text. -/
theorem offsetColon_colon {m : Int} (h : m.natAbs ≤ 5999) (text : List Char) :
    offsetColon (Offset.colon m ++ text) = some (m, text) :=
  offsetColon_eq_some_iff.2 ⟨Offset.colon m, offsetText_of_natAbs_le h [':'], rfl⟩

@[inherit_doc offsetColon_colon]
theorem offsetCompact_compact {m : Int} (h : m.natAbs ≤ 5999) (text : List Char) :
    offsetCompact (Offset.compact m ++ text) = some (m, text) :=
  offsetCompact_eq_some_iff.2 ⟨Offset.compact m, offsetText_of_natAbs_le h [], rfl⟩

/-- With more hours than two digits hold, a digit stands where the colon is looked for. -/
theorem offsetColon_colon_eq_none {m : Int} (h : 5999 < m.natAbs) (text : List Char) :
    offsetColon (Offset.colon m ++ text) = none := by
  have hhours : 10 ^ 2 ≤ Offset.hours m := by unfold Offset.hours; omega
  have hlen : 2 < (Decimal.ofNat 2 (Offset.hours m)).length :=
    Decimal.lt_length_ofNat (by decide) hhours
  have hdigits : ∀ c ∈ Decimal.ofNat 2 (Offset.hours m), c.isDigit = true :=
    fun c hc => Decimal.isDigit_of_mem_ofNat hc
  -- Whatever the first two digits are read as, the colon is looked for behind them
  rw [offsetColon, Offset.colon, List.cons_append, sign_sign]
  simp only [List.append_assoc, Option.bind_eq_bind]
  generalize Decimal.ofNat 2 (Offset.hours m) = digits at hlen hdigits
  rw [Option.bind_eq_none_iff]
  intro found hread
  obtain ⟨n, rest⟩ := found
  -- The third digit is what two digits leave behind
  rw [fixedDigits_rest hread, List.drop_append_of_le_length (by omega)]
  cases hdrop : digits.drop 2 with
  | nil =>
    have hshort := List.drop_eq_nil_iff.1 hdrop
    omega
  | cons c left =>
    have hmem : c ∈ digits := List.mem_of_mem_drop (hdrop ▸ List.mem_cons_self)
    have hcolon : c ≠ ':' := Decimal.ne_of_isDigit (hdigits c hmem) rfl
    simp [literal, hcolon]

/-- Without a colon, four of the digits are taken, and at least one is left. What is taken for hours
    is then at most a tenth of them. -/
theorem offsetCompact_compact_of_lt {m : Int} (h : 5999 < m.natAbs) (text : List Char) :
    ∃ n left, offsetCompact (Offset.compact m ++ text) = some (n, left ++ text) ∧
      n.natAbs < m.natAbs ∧ left ≠ [] := by
  have hmany : 10 ^ 2 ≤ Offset.hours m := by unfold Offset.hours; omega
  have hlen : 2 < (Decimal.ofNat 2 (Offset.hours m)).length :=
    Decimal.lt_length_ofNat (by decide) hmany
  -- The hours lose a digit when only two of theirs are taken
  have htenth := Decimal.ten_mul_value_take_le hlen
  have htotal := hours_add_minutesOfHour m
  have hall : ∀ c ∈ Decimal.ofNat 2 (Offset.hours m) ++ Decimal.ofNat 2 (Offset.minutesOfHour m),
      c.isDigit = true := by
    intro c hc
    rcases List.mem_append.1 hc with hc | hc <;> exact Decimal.isDigit_of_mem_ofNat hc
  have hbehind : 2 ≤ (Decimal.ofNat 2 (Offset.minutesOfHour m)).length := by
    rw [Decimal.length_ofNat]
    omega
  rw [Decimal.value_ofNat] at htenth
  -- The first two digits are digits of the hours
  rw [← List.take_append_of_le_length (Nat.le_of_lt hlen)] at htenth
  rw [Offset.compact]
  generalize hdigits : Decimal.ofNat 2 (Offset.hours m) ++
    Decimal.ofNat 2 (Offset.minutesOfHour m) = digits at hall htenth
  -- Hours and minutes together have five digits or more, so that one is left behind the four
  have hfour : 4 < digits.length := by rw [← hdigits, List.length_append]; omega
  have hhours : DigitText 2 (digits.take 2) :=
    ⟨by simp; omega, fun c hc => hall c (List.mem_of_mem_take hc)⟩
  have hminutes : DigitText 2 ((digits.drop 2).take 2) :=
    ⟨by simp; omega, fun c hc => hall c (List.mem_of_mem_drop (List.mem_of_mem_take hc))⟩
  -- Two digits for the hours, two for the minutes, and what is left
  have hsplit : digits = digits.take 2 ++ ((digits.drop 2).take 2 ++ digits.drop 4) := by
    rw [← List.drop_drop (i := 2) (j := 2), List.take_append_drop, List.take_append_drop]
  have hlt := hminutes.value_lt
  refine ⟨_, digits.drop 4, offsetCompact_eq_some_iff.2 ⟨_,
    ⟨_, _, _, _, signText_sign m, hhours, hminutes, rfl, rfl⟩, ?_⟩, ?_, ?_⟩
  · rw [List.cons_append]
    conv => lhs; rw [hsplit]
    simp
  · -- The new minutes are less than a hundred, and the new hours a tenth at most
    rw [natAbs_signed]
    omega
  · simp
    omega

/-- A printed offset in minutes is one of the texts that are read, unless it is too large without
    its sign. -/
theorem minutesText_ofInt {m : Int} (h : m.natAbs ≤ 2147483647) :
    MinutesText m (Decimal.ofInt 1 m) := by
  have hsigned := signed_natAbs m
  unfold Decimal.ofInt
  split
  · next hneg =>
    -- The minus is printed in front of the digits
    rw [decide_eq_true hneg] at hsigned
    refine ⟨true, ['-'], _, .minus, Decimal.ofNat_ne_nil _ m.natAbs,
      fun _ hc => Decimal.isDigit_of_mem_ofNat hc, ?_, rfl, ?_⟩
    · rwa [Decimal.value_ofNat]
    · rw [Decimal.value_ofNat, hsigned]
  · next hpos =>
    -- No plus is printed
    rw [decide_eq_false hpos] at hsigned
    refine ⟨false, [], _, .none, Decimal.ofNat_ne_nil _ m.natAbs,
      fun _ hc => Decimal.isDigit_of_mem_ofNat hc, ?_, rfl, ?_⟩
    · rwa [Decimal.value_ofNat]
    · rw [Decimal.value_ofNat, hsigned]

/-- An offset in minutes is found where the run ends, if it has a counterpart of the other
    sign. -/
theorem offsetMinutes_ofInt {m : Int} (h : m.natAbs ≤ 2147483647) {text : List Char}
    (htext : EndsRun text) : offsetMinutes (Decimal.ofInt 1 m ++ text) = some (m, text) :=
  offsetMinutes_eq_some_iff.2 ⟨Decimal.ofInt 1 m, minutesText_ofInt h, htext, rfl⟩

/-- An offset that has none is not found: without its sign it is too large. -/
theorem offsetMinutes_ofInt_eq_none {m : Int} (h : 2147483647 < m.natAbs) {text : List Char}
    (htext : EndsRun text) : offsetMinutes (Decimal.ofInt 1 m ++ text) = none := by
  -- Without its sign the number is beyond the limit
  have hdigits : ∀ width, boundedRun 2147483647 (Decimal.ofNat width m.natAbs ++ text) = none :=
    fun _ => boundedRun_ofNat_eq_none h htext
  by_cases hm : m < 0
  · rw [Decimal.ofInt, if_pos hm]
    show (boundedRun 2147483647 (Decimal.ofNat 0 m.natAbs ++ text)).bind _ = none
    rw [hdigits]
    rfl
  · -- Without a minus, no sign is printed, and the digits are read at once
    have hsign := sign_append .none (Decimal.ofNat_ne_nil 1 m.natAbs)
      (fun _ hc => Decimal.isDigit_of_mem_ofNat hc) text
    rw [Decimal.ofInt, if_neg hm, offsetMinutes]
    simp only [List.nil_append] at hsign
    simp [hsign, hdigits]

end TimePattern.Field
