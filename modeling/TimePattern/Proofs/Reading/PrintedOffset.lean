import TimePattern.Proofs.Reading.PrintedText
import TimePattern.Proofs.Reading.Range

/-!
# Reading printed offsets

An offset is printed with as many digits for its hours as they need, but two digits are read for
them. What becomes of the hundredth hour depends on what stands behind the hours: a colon is missed,
while digits are taken for minutes. Minutes without hours are read in full, but for the one offset
that has no counterpart of the other sign. The text itself loses nothing in any case.

## Key results

- `Offset.ofCompact?_compact`: the text without a colon holds the offset, however large
- `Pattern.rereadsOffset_colon_iff` and its like: which offsets are read again, for each directive
- `offsets_reread_iff`: the offsets that are read again, and what becomes of the others
-/

namespace TimePattern

/-! ## Offsets of any size -/

namespace Offset

/-- The offset that a text without a colon denotes: a sign, all digits but the last two as hours,
    and the last two as minutes, of which an hour has less than sixty. -/
def ofCompact? : List Char → Option Int
  | [] => none
  | c :: digits =>
    let hours := digits.take (digits.length - 2)
    let minutes := digits.drop (digits.length - 2)
    if (c = '+' ∨ c = '-') ∧ digits.all Char.isDigit ∧ hours ≠ [] ∧ Decimal.value minutes < 60 then
      some (Field.signed (c = '-') (60 * Decimal.value hours + Decimal.value minutes))
    else none

/-- An hour has sixty minutes. -/
theorem minutesOfHour_lt (m : Int) : minutesOfHour m < 60 := by
  unfold minutesOfHour
  omega

/-- The text without a colon denotes the offset for which it is printed. -/
theorem ofCompact?_compact (m : Int) : ofCompact? (compact m) = some m := by
  have hlt := minutesOfHour_lt m
  -- The minutes are always two digits, so that cutting there gives hours and minutes back
  have hlen : (Decimal.ofNat 2 (minutesOfHour m)).length = 2 :=
    Decimal.length_ofNat_of_lt (by decide) (by omega)
  have hall : ∀ width n, (Decimal.ofNat width n).all Char.isDigit = true :=
    fun _ _ => List.all_eq_true.2 fun _ hc => Decimal.isDigit_of_mem_ofNat hc
  have hsign : (sign m = '+' ∨ sign m = '-') ∧ decide (sign m = '-') = decide (m < 0) := by
    unfold sign
    split <;> simp [*]
  -- Hours and minutes together are the size of the offset, and the sign is in front
  have htotal := Field.hours_add_minutesOfHour m
  simp only [ofCompact?, compact, List.length_append, hlen, Nat.add_sub_cancel, List.take_left,
    List.drop_left, List.all_append, hall, Decimal.value_ofNat, hsign.2]
  rw [if_pos ⟨hsign.1, rfl, Decimal.ofNat_ne_nil _ _, hlt⟩, Nat.mul_comm, htotal,
    Field.signed_natAbs]

/-- The largest offset west of UTC, which four digits cannot hold. -/
example : ofCompact? (compact (-2147483648)) = some (-2147483648) := by decide

end Offset

namespace Pattern

/-! ## One directive -/

/-- A directive of an offset puts what its field reader finds into the default stamp. -/
theorem read_offset {d : Directive} {what : String} {field : Reader Int}
    (hscan : d.scan? = some (expecting what field (.ok ∘ Update.ofOffset))) {text rest : List Char}
    {n : Int} (hfield : field text = some (n, rest)) :
    (Pattern.mk [d]).read text =
      .ok ⟨{ (default : Stamp) with offsetMinutes := Int32.ofInt n }, rest⟩ := by
  have hfinds : d.Finds text (.ofOffset n) rest := Directive.finds_of_field hscan hfield rfl
  rw [read_singleton]
  exact hfinds.read default

/-- The pattern prints the offset of the moment and reads it again, with nothing left. -/
def RereadsOffset (p : Pattern) (m : Moment) : Prop :=
  ∃ r, p.read (p.print m) = .ok r ∧ r.stamp.offsetMinutes = m.offsetMinutes ∧ r.rest = []

/-- The pattern prints the offset of the moment and reads another one, with something left. -/
def MisreadsOffset (p : Pattern) (m : Moment) : Prop :=
  ∃ r, p.read (p.print m) = .ok r ∧ r.stamp.offsetMinutes ≠ m.offsetMinutes ∧ r.rest ≠ []

/-- The pattern does not match what it prints for the moment. -/
def RefusesOffset (p : Pattern) (m : Moment) : Prop :=
  ∃ e, p.read (p.print m) = .error (.mismatch e)

/-- A field reader that takes the whole printed text and finds the offset in it. -/
theorem rereadsOffset_of_field {d : Directive} {what : String} {field : Reader Int}
    (hscan : d.scan? = some (expecting what field (.ok ∘ Update.ofOffset))) {m : Moment}
    (hfield : field (d.print m) = some (m.offsetMinutes.toInt, [])) :
    (Pattern.mk [d]).RereadsOffset m := by
  rw [← print_singleton] at hfield
  exact ⟨_, read_offset hscan hfield, Int32.ofInt_toInt m.offsetMinutes, rfl⟩

/-- A field reader that takes nothing of the printed text. -/
theorem refusesOffset_of_field {d : Directive} {α : Type} {what : String} {field : Reader α}
    {finding : α → Except Cause Update} (hscan : d.scan? = some (expecting what field finding))
    {m : Moment} (hfield : field (d.print m) = none) : (Pattern.mk [d]).RefusesOffset m := by
  rw [RefusesOffset, read_singleton, print_singleton]
  exact ⟨_, Directive.read_of_field_none hscan hfield default⟩

section Outcome

variable {p : Pattern} {m : Moment}

theorem RereadsOffset.not_refuses (h : p.RereadsOffset m) : ¬ p.RefusesOffset m := by
  rintro ⟨e, he⟩
  obtain ⟨r, hr, -⟩ := h
  rw [hr] at he
  cases he

theorem RereadsOffset.not_misreads (h : p.RereadsOffset m) : ¬ p.MisreadsOffset m := by
  rintro ⟨r', hr', hother, -⟩
  obtain ⟨r, hr, hsame, -⟩ := h
  rw [hr] at hr'
  cases hr'
  exact hother hsame

/-- Of two outcomes that exclude each other, one happens just if a condition holds and the other
    just if it does not, as soon as each happens in its own case. -/
theorem rereadsOffset_iff {fits fails : Prop} (hok : fits → p.RereadsOffset m)
    (hfails : ¬ fits → fails) (hnot : p.RereadsOffset m → ¬ fails) :
    (p.RereadsOffset m ↔ fits) ∧ (fails ↔ ¬ fits) := by
  by_cases hfits : fits
  · exact ⟨iff_of_true (hok hfits) hfits, iff_of_false (hnot (hok hfits)) (not_not_intro hfits)⟩
  · have hfailed := hfails hfits
    exact ⟨iff_of_false (fun h => hnot h hfailed) hfits, iff_of_true hfailed hfits⟩

end Outcome

/-! ## The three directives -/

/-- With a colon, an offset of less than a hundred hours is read again, and any other is refused. -/
theorem rereadsOffset_colon_iff (m : Moment) :
    let p : Pattern := ⟨[.offsetColon]⟩
    (p.RereadsOffset m ↔ m.offsetMinutes.toInt.natAbs ≤ 5999) ∧
      (p.RefusesOffset m ↔ ¬ m.offsetMinutes.toInt.natAbs ≤ 5999) := by
  refine rereadsOffset_iff (fun hle => ?_) (fun hlt => ?_) RereadsOffset.not_refuses
  · have hfield := Field.offsetColon_colon hle []
    rw [List.append_nil] at hfield
    exact rereadsOffset_of_field rfl hfield
  · -- The third digit of the hours stands where the colon is looked for
    have hfield := Field.offsetColon_colon_eq_none (Nat.lt_of_not_le hlt) []
    rw [List.append_nil] at hfield
    exact refusesOffset_of_field rfl hfield

/-- Without a colon, any other offset is read as a smaller one instead. -/
theorem rereadsOffset_compact_iff (m : Moment) :
    let p : Pattern := ⟨[.offsetCompact]⟩
    (p.RereadsOffset m ↔ m.offsetMinutes.toInt.natAbs ≤ 5999) ∧
      (p.MisreadsOffset m ↔ ¬ m.offsetMinutes.toInt.natAbs ≤ 5999) := by
  refine rereadsOffset_iff (fun hle => ?_) (fun hlt => ?_) RereadsOffset.not_misreads
  · have hfield := Field.offsetCompact_compact hle []
    rw [List.append_nil] at hfield
    exact rereadsOffset_of_field rfl hfield
  · -- Here that digit is taken for one of the minutes, and a digit of the minutes is left
    obtain ⟨n, left, hfield, hsmaller, hleft⟩ :=
      Field.offsetCompact_compact_of_lt (Nat.lt_of_not_le hlt) []
    rw [List.append_nil, List.append_nil] at hfield
    have hbound := Field.offsetCompact_natAbs_le hfield
    have hn : (Int32.ofInt n).toInt = n := toInt_int32_ofInt (by omega)
    have hread := read_offset (d := .offsetCompact) rfl hfield
    rw [MisreadsOffset, print_singleton]
    refine ⟨_, hread, ?_, hleft⟩
    show Int32.ofInt n ≠ m.offsetMinutes
    intro heq
    rw [← heq, hn] at hsmaller
    exact Nat.lt_irrefl _ hsmaller

/-- Minutes are read again as long as their number has 31 bits besides the sign. -/
theorem rereadsOffset_minutes_iff (m : Moment) :
    let p : Pattern := ⟨[.offsetMinutes]⟩
    (p.RereadsOffset m ↔ m.offsetMinutes.toInt.natAbs ≤ 2147483647) ∧
      (p.RefusesOffset m ↔ ¬ m.offsetMinutes.toInt.natAbs ≤ 2147483647) := by
  refine rereadsOffset_iff (fun hle => ?_) (fun hlt => ?_) RereadsOffset.not_refuses
  · have hfield := Field.offsetMinutes_ofInt hle Decimal.endsRun_nil
    rw [List.append_nil] at hfield
    exact rereadsOffset_of_field rfl hfield
  · -- Behind the minus stands a number that is one too large
    have hfield := Field.offsetMinutes_ofInt_eq_none (Nat.lt_of_not_le hlt) Decimal.endsRun_nil
    rw [List.append_nil] at hfield
    exact refusesOffset_of_field rfl hfield

end Pattern

/-! ## All three -/

/-- All offsets have such a number of minutes but one. -/
theorem natAbs_toInt_le_iff (n : Int32) : n.toInt.natAbs ≤ 2147483647 ↔ n ≠ Int32.minValue := by
  rw [ne_eq, ← Int32.toInt_inj, Int32.toInt_minValue]
  -- The least number of 32 bits is the only one whose size has no 31 bits
  have hlo := n.le_toInt
  have hhi := n.toInt_lt
  omega

/-- An offset of less than a hundred hours is read again by the directive that printed it. With
    more hours the colon is missed; without a colon, another offset is read and something is left.
    The offset in minutes is read again unless it is the one without a counterpart, which is
    refused. The texts with and without a colon differ in nothing else, and hold the offset in any
    case. -/
theorem offsets_reread_iff (m : Moment) :
    let n := m.offsetMinutes.toInt
    let colon : Pattern := ⟨[.offsetColon]⟩
    let compact : Pattern := ⟨[.offsetCompact]⟩
    let minutes : Pattern := ⟨[.offsetMinutes]⟩
    ((colon.RereadsOffset m ↔ n.natAbs ≤ 5999) ∧ (colon.RefusesOffset m ↔ ¬ n.natAbs ≤ 5999)) ∧
    ((compact.RereadsOffset m ↔ n.natAbs ≤ 5999) ∧
      (compact.MisreadsOffset m ↔ ¬ n.natAbs ≤ 5999)) ∧
    ((minutes.RereadsOffset m ↔ m.offsetMinutes ≠ Int32.minValue) ∧
      (minutes.RefusesOffset m ↔ m.offsetMinutes = Int32.minValue)) ∧
    compact.print m = (colon.print m).filter (· ≠ ':') ∧
    Offset.ofCompact? (compact.print m) = some n := by
  intro n colon compact minutes
  have hcolon := Pattern.rereadsOffset_colon_iff m
  have hcompact := Pattern.rereadsOffset_compact_iff m
  have hminutes := Pattern.rereadsOffset_minutes_iff m
  -- The bound on minutes leaves out one offset of 32 bits
  simp only [natAbs_toInt_le_iff, not_not] at hminutes
  refine ⟨hcolon, hcompact, hminutes, ?_, ?_⟩
  · rw [Pattern.print_singleton, Pattern.print_singleton]
    exact Offset.compact_eq_filter_colon n
  · rw [Pattern.print_singleton]
    exact Offset.ofCompact?_compact n

end TimePattern
