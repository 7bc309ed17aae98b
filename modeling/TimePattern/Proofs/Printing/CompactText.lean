import TimePattern.Catalog.Builtin
import TimePattern.Proofs.Mnemonic.Takes
import TimePattern.Proofs.Reading.PrintedText
import TimePattern.Proofs.Stamp.Chronology

/-!
# Texts that sort as time

Directives that write each field of the stamp in a fixed number of digits print texts that sort as
these fields do. In the compact pattern the fields come from the largest to the smallest, so that
its texts sort as the instants that they stand for.

## Key results

- `Directive.sameWidthOrder_print`: the text of a directive sorts as its field
- `sameWidthOrder_flatMap_print`: the texts of directives one after the other sort as their fields
- `compact_print_lt_iff`: compact texts sort as time
-/

namespace TimePattern

/-! ## Directives of fixed width -/

namespace Directive

/-- The directive writes a field in a fixed number of digits, or the same character each time. -/
def isSortable : Directive → Bool
  | year4 | month2 | day2 | hour | minute | second | literal _ => true
  | _ => false

/-- The field that tells the texts of a sortable directive apart. -/
def sortKey (s : Stamp) : Directive → List Int
  | year4 => [s.date.year.toInt]
  | month2 => [s.date.month.number]
  | day2 => [s.date.day.toNat]
  | hour => [s.time.hour.toNat]
  | minute => [s.time.minute.toNat]
  | second => [s.time.second.toNat]
  | _ => []

/-- The text of a sortable directive has one length, and sorts as the field. -/
theorem sameWidthOrder_print {d : Directive} (hd : d.isSortable = true) {s t : Stamp}
    (hs : d.Fits s) (ht : d.Fits t) :
    SameWidthOrder (d.print s.moment) (d.print t.moment) (d.sortKey s) (d.sortKey t) := by
  cases d with
  | year4 =>
    -- Up to 9999 the year is written with four digits and without a sign
    obtain ⟨h0, hmax⟩ := hs
    obtain ⟨h0', hmax'⟩ := ht
    rw [print, print, Stamp.date_moment, Stamp.date_moment]
    exact Decimal.sameWidthOrder_ofInt (by decide) h0 h0' (by omega) (by omega)
  | month2 =>
    -- Months have two digits in any case
    have hmax := s.date.month.number_le
    have hmax' := t.date.month.number_le
    rw [print, print, Stamp.date_moment, Stamp.date_moment]
    exact Decimal.sameWidthOrder_ofNat (by decide) (by omega) (by omega)
  | day2 =>
    rw [print, print, Stamp.date_moment, Stamp.date_moment]
    exact Decimal.sameWidthOrder_ofNat (by decide) (Nat.lt_succ_of_le hs) (Nat.lt_succ_of_le ht)
  | hour | minute | second =>
    rw [print, print, Stamp.time_moment, Stamp.time_moment]
    exact Decimal.sameWidthOrder_ofNat (by decide) (Nat.lt_succ_of_le hs) (Nat.lt_succ_of_le ht)
  | literal c =>
    -- The same character on both sides decides nothing
    show SameWidthOrder [c] [c] ([] : List Int) []
    exact ⟨⟨by simp, by simp⟩, rfl, rfl⟩
  | _ => cases hd

end Directive

/-- Texts of sortable directives sort as the fields in the order of the directives. -/
theorem sameWidthOrder_flatMap_print {ds : List Directive} (hds : ∀ d ∈ ds, d.isSortable = true)
    {s t : Stamp} (hs : ∀ d ∈ ds, d.Fits s) (ht : ∀ d ∈ ds, d.Fits t) :
    SameWidthOrder (ds.flatMap (·.print s.moment)) (ds.flatMap (·.print t.moment))
      (ds.flatMap (·.sortKey s)) (ds.flatMap (·.sortKey t)) :=
  .flatMap fun d hd => Directive.sameWidthOrder_print (hds d hd) (hs d hd) (ht d hd)

/-! ## The compact pattern -/

/-- The pattern of texts such as `20240101T180000`. -/
def compact : Pattern :=
  Mnemonic.compile ['Y', 'Y', 'Y', 'Y', 'M', 'M', 'D', 'D', 'T', 'h', 'm', 'm', 's']

theorem directives_compact :
    compact.directives = [.year4, .month2, .day2, .literal 'T', .hour, .minute, .second] := by
  show Mnemonic.directives _ = _
  -- Each directive takes its mnemonic, and leaves the text behind it
  iterate 7 refine Mnemonic.directives_eq_cons_iff.2 ⟨_, ⟨_, _, rfl, rfl⟩, ?_⟩
  rw [Mnemonic.directives]

theorem builtin_get?_compact : Catalog.builtin.get? "compact" = some compact := rfl

/-- A civil stamp of a year with up to four digits has room in the compact pattern. -/
theorem fits_compact {s : Stamp} (hs : s.IsCivil)
    (hyear : 0 ≤ s.date.year.toInt ∧ s.date.year.toInt ≤ 9999) :
    ∀ d ∈ compact.directives, d.Fits s := by
  obtain ⟨⟨-, hday⟩, hhour, hminute, hsecond⟩ := hs
  -- A real day has two digits at most, as its month has no more than 31
  have hlen := s.date.month.length_le s.date.year.toInt
  rw [directives_compact]
  simp only [List.forall_mem_cons, List.not_mem_nil, false_implies, implies_true, and_true,
    Directive.Fits]
  exact ⟨hyear, trivial, by omega, trivial, by omega, by omega, by omega⟩

/-- The fields of the compact pattern are all of the stamp's, from the largest to the smallest. -/
theorem flatMap_sortKey_compact (s : Stamp) :
    compact.directives.flatMap (·.sortKey s) = s.fields := by
  rw [directives_compact]
  rfl

/-- The built-in compact pattern prints civil stamps with one offset, in the years from 0 to 9999, as
    texts that sort as their instants do. -/
theorem compact_print_lt_iff {s t : Stamp} (hs : s.IsCivil) (ht : t.IsCivil)
    (hyear : 0 ≤ s.date.year.toInt ∧ s.date.year.toInt ≤ 9999)
    (hyear' : 0 ≤ t.date.year.toInt ∧ t.date.year.toInt ≤ 9999)
    (hoffset : s.offsetMinutes = t.offsetMinutes) :
    Catalog.builtin.get? "compact" = some compact ∧
      (compact.print s.moment < compact.print t.moment ↔ s.epochSeconds < t.epochSeconds) ∧
      (compact.print s.moment = compact.print t.moment ↔ s.epochSeconds = t.epochSeconds) := by
  have hsortable : ∀ d ∈ compact.directives, d.isSortable = true := by
    rw [directives_compact]
    decide
  have hprint := sameWidthOrder_flatMap_print hsortable (fits_compact hs hyear)
    (fits_compact ht hyear')
  rw [flatMap_sortKey_compact, flatMap_sortKey_compact] at hprint
  -- Text and instant both compare as the fields do
  have hfields := Stamp.sameOrder_fields hs ht hoffset
  obtain ⟨hlt, heq⟩ := hprint.toSameOrder.trans hfields.symm
  exact ⟨builtin_get?_compact, hlt, heq⟩

/-- The last second of a leap year and the first of the next one. -/
theorem compact_print_lt_iff_newYear :
    let s : Stamp := ⟨⟨2024, .december, 31⟩, ⟨23, 59, 59, 0⟩, -90⟩
    let t : Stamp := ⟨⟨2025, .january, 1⟩, ⟨0, 0, 0, 0⟩, -90⟩
    (s.IsCivil ∧ 0 ≤ s.date.year.toInt ∧ s.date.year.toInt ≤ 9999) ∧
      (t.IsCivil ∧ 0 ≤ t.date.year.toInt ∧ t.date.year.toInt ≤ 9999) ∧
      Catalog.builtin.get? "compact" = some compact ∧
      (compact.print s.moment < compact.print t.moment ↔ s.epochSeconds < t.epochSeconds) ∧
      (compact.print s.moment = compact.print t.moment ↔ s.epochSeconds = t.epochSeconds) :=
  have hs : Stamp.IsCivil ⟨⟨2024, .december, 31⟩, ⟨23, 59, 59, 0⟩, -90⟩ := ⟨by decide, by decide⟩
  have ht : Stamp.IsCivil ⟨⟨2025, .january, 1⟩, ⟨0, 0, 0, 0⟩, -90⟩ := ⟨by decide, by decide⟩
  ⟨⟨hs, by decide⟩, ⟨ht, by decide⟩, compact_print_lt_iff hs ht (by decide) (by decide) rfl⟩

end TimePattern
