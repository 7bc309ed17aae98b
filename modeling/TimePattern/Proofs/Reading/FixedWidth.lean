import Mathlib.Computability.Language
import TimePattern.Proofs.Field.OffsetText
import TimePattern.Proofs.Reading.Finds

/-!
# Fixed-width patterns and their grammar

A directive of fixed width stands for a language of texts: a character, some digits, or an offset
of two digits each with or without a sign. A pattern of such directives reads the texts that begin
with a text of the concatenated languages. No text begins with two of them, so nothing is gained by
trying other ways to read it.

## Key results

- `mem_digit_pow_iff`: powers of the digits are the texts of so many digits
- `Directive.exists_finds_iff`: a directive takes the texts of its language
- `exists_readFrom_iff`: directives one after the other take the texts of the concatenation
- `Pattern.exists_read_iff_language`: what a pattern of fixed width reads
-/

namespace TimePattern

open TimePattern.Field (DigitText SignText OffsetText)

/-! ## Languages -/

/-- The ASCII digits. -/
def digit : Language Char := {text | ∃ c : Char, c.isDigit = true ∧ text = [c]}

/-- A plus, a minus or nothing. -/
def optionalSign : Language Char := {[], ['+'], ['-']}

/-- Powers of the language of digits are the texts of so many digits. -/
theorem mem_digit_pow_iff {count : Nat} {text : List Char} :
    text ∈ digit ^ count ↔ DigitText count text := by
  induction count generalizing text with
  | zero =>
    rw [pow_zero, Language.mem_one, DigitText, List.length_eq_zero_iff]
    exact ⟨fun h => ⟨h, by simp [h]⟩, And.left⟩
  | succ count ih =>
    -- One digit in front and the others behind it
    rw [pow_succ', Language.mem_mul]
    constructor
    · intro h
      obtain ⟨_, ⟨c, hc, rfl⟩, digits, hdigits, rfl⟩ := h
      obtain ⟨hlen, hall⟩ := ih.1 hdigits
      exact ⟨by simp [hlen], List.forall_mem_cons.2 ⟨hc, hall⟩⟩
    · intro h
      obtain ⟨hlen, hall⟩ := h
      cases text with
      | nil => cases hlen
      | cons c digits =>
        obtain ⟨hc, hall⟩ := List.forall_mem_cons.1 hall
        exact ⟨[c], ⟨c, hc, rfl⟩, digits, ih.2 ⟨Nat.succ.inj hlen, hall⟩, rfl⟩

/-- These are the three forms of a sign. -/
theorem mem_optionalSign_iff {text : List Char} :
    text ∈ optionalSign ↔ ∃ negative, SignText negative text := by
  constructor
  · rintro (rfl | rfl | rfl)
    · exact ⟨false, .none⟩
    · exact ⟨false, .plus⟩
    · exact ⟨true, .minus⟩
  · rintro ⟨negative, hmark⟩
    cases hmark with
    | none => exact .inl rfl
    | plus => exact .inr (.inl rfl)
    | minus => exact .inr (.inr rfl)

/-- The texts of offsets are those of a sign, two digits, the separator and two digits. -/
theorem mem_offset_iff {separator text : List Char} :
    text ∈ optionalSign * digit ^ 2 * {separator} * digit ^ 2 ↔
      ∃ m, OffsetText separator m text := by
  simp only [Language.mem_mul, mem_optionalSign_iff, mem_digit_pow_iff]
  constructor
  · intro h
    obtain ⟨_, ⟨_, ⟨mark, ⟨negative, hmark⟩, hours, hhours, rfl⟩, _, rfl, rfl⟩, minutes, hminutes,
      rfl⟩ := h
    exact ⟨_, negative, mark, hours, minutes, hmark, hhours, hminutes, by simp, rfl⟩
  · intro h
    obtain ⟨m, negative, mark, hours, minutes, hmark, hhours, hminutes, rfl, -⟩ := h
    exact ⟨_, ⟨_, ⟨mark, ⟨negative, hmark⟩, hours, hhours, rfl⟩, separator, rfl, rfl⟩, minutes,
      hminutes, by simp⟩

/-! ## Fields -/

namespace Field

/-- A fixed number of digits, few enough for the number to fit. -/
theorem exists_fixedDigits_iff {count : Nat} (h0 : 0 < count) (h9 : count ≤ 9)
    {text rest : List Char} :
    (∃ n, fixedDigits count text = some (n, rest)) ↔
      ∃ front ∈ digit ^ count, text = front ++ rest := by
  simp only [fixedDigits_eq_some_iff_digitText h0 h9, mem_digit_pow_iff]
  constructor
  · intro h
    obtain ⟨n, digits, hdigits, -, htext⟩ := h
    exact ⟨digits, hdigits, htext⟩
  · intro h
    obtain ⟨digits, hdigits, htext⟩ := h
    exact ⟨_, digits, hdigits, rfl, htext⟩

/-- Two digits of a year, whichever century they belong to. -/
theorem exists_yearTwoDigit_iff {text rest : List Char} :
    (∃ n, yearTwoDigit text = some (n, rest)) ↔ ∃ front ∈ digit ^ 2, text = front ++ rest := by
  rw [← exists_fixedDigits_iff (by decide) (by decide)]
  -- The century plays no part in whether two digits are there
  simp [yearTwoDigit]

theorem exists_literal_iff {c : Char} {text rest : List Char} :
    (∃ d, literal c text = some (d, rest)) ↔
      ∃ front ∈ ({[c]} : Language Char), text = front ++ rest := by
  constructor
  · intro h
    obtain ⟨d, hread⟩ := h
    exact ⟨[c], rfl, (literal_eq_some_iff.1 hread).2⟩
  · intro h
    obtain ⟨_, rfl, htext⟩ := h
    exact ⟨c, literal_eq_some_iff.2 ⟨rfl, htext⟩⟩

/-- An offset, whatever its separator, is a sign and two pairs of digits around it. -/
theorem exists_offset_iff {field : Reader Int} {separator : List Char}
    (hfield : ∀ {m : Int} {text rest : List Char}, field text = some (m, rest) ↔
      ∃ taken, OffsetText separator m taken ∧ text = taken ++ rest) {text rest : List Char} :
    (∃ m, field text = some (m, rest)) ↔
      ∃ front ∈ optionalSign * digit ^ 2 * {separator} * digit ^ 2, text = front ++ rest := by
  simp only [hfield, mem_offset_iff]
  constructor
  · intro h
    obtain ⟨m, front, hfront, htext⟩ := h
    exact ⟨front, ⟨m, hfront⟩, htext⟩
  · intro h
    obtain ⟨front, ⟨m, hfront⟩, htext⟩ := h
    exact ⟨m, front, hfront, htext⟩

/-- An offset without separator has four digits. -/
theorem exists_offsetCompact_iff {text rest : List Char} :
    (∃ m, offsetCompact text = some (m, rest)) ↔
      ∃ front ∈ optionalSign * digit ^ 4, text = front ++ rest := by
  -- Four digits are two of hours and two of minutes, with nothing between them
  have hsplit : optionalSign * digit ^ 4 = optionalSign * digit ^ 2 * {[]} * digit ^ 2 := by
    rw [show ({[]} : Language Char) = 1 from rfl, mul_one, mul_assoc, ← pow_add]
  rw [hsplit]
  exact exists_offset_iff offsetCompact_eq_some_iff

end Field

/-! ## Directives -/

namespace Directive

/-- The directive reads a text of one length, up to the sign of an offset. -/
def isFixedWidth : Directive → Bool
  | year4 | year2 | month2 | day2 | hour | minute | second | offsetColon | offsetCompact
  | literal _ => true
  | _ => false

/-- The texts that a directive of fixed width stands for. -/
def language : Directive → Language Char
  | literal c => {[c]}
  | year4 => digit ^ 4
  | year2 | month2 | day2 | hour | minute | second => digit ^ 2
  | offsetColon => optionalSign * digit ^ 2 * {[':']} * digit ^ 2
  | offsetCompact => optionalSign * digit ^ 4
  | _ => 0

/-- A directive that finds something in whatever its field is takes what its field reader takes. -/
theorem exists_finds_iff_of_field {d : Directive} {α : Type} {what : String} {field : Reader α}
    {finding : α → Update} (hscan : d.scan? = some (expecting what field (.ok ∘ finding)))
    {text rest : List Char} :
    (∃ u, d.Finds text u rest) ↔ ∃ a, field text = some (a, rest) := by
  constructor
  · intro h
    obtain ⟨u, hfinds⟩ := h
    obtain ⟨a, hread, -⟩ := exists_of_finds hscan hfinds
    exact ⟨a, hread⟩
  · intro h
    obtain ⟨a, hread⟩ := h
    exact ⟨finding a, finds_of_field hscan hread rfl⟩

/-- A directive of fixed width takes the texts of its language, whatever follows. -/
theorem exists_finds_iff {d : Directive} (hd : d.isFixedWidth = true) {text rest : List Char} :
    (∃ u, d.Finds text u rest) ↔ ∃ front ∈ d.language, text = front ++ rest := by
  cases d with
  | year4 | month2 | day2 | hour | minute | second =>
    exact (exists_finds_iff_of_field rfl).trans
      (Field.exists_fixedDigits_iff (by decide) (by decide))
  | year2 => exact (exists_finds_iff_of_field rfl).trans Field.exists_yearTwoDigit_iff
  | offsetColon => exact
    (exists_finds_iff_of_field rfl).trans (Field.exists_offset_iff Field.offsetColon_eq_some_iff)
  | offsetCompact => exact (exists_finds_iff_of_field rfl).trans Field.exists_offsetCompact_iff
  | literal c =>
    -- The label of a literal depends on its character, so that the rule is spelled out
    have hscan : (literal c).scan? = some (expecting (String.ofList (quoteChar c))
        (Field.literal c) (.ok ∘ fun _ => .nothing)) := rfl
    exact (exists_finds_iff_of_field hscan).trans Field.exists_literal_iff
  | _ => cases hd

/-- Directives of the caller's own have no width that is known. -/
theorem not_custom_of_isFixedWidth {d : Directive} (hd : d.isFixedWidth = true) :
    d.isCustom = false := by
  cases d with
  | custom own => cases hd
  | _ => rfl

end Directive

/-! ## Patterns -/

/-- Directives of fixed width take the texts of the concatenation of their languages. -/
theorem exists_readFrom_iff {ds : List Directive} (hds : ∀ d ∈ ds, d.isFixedWidth = true)
    (soFar : Stamp) {text rest : List Char} :
    (∃ s, readFrom soFar text ds = .ok ⟨s, rest⟩) ↔
      ∃ front ∈ (ds.map Directive.language).prod, text = front ++ rest := by
  induction ds generalizing soFar text with
  | nil => simp [readFrom, Language.mem_one]
  | cons d ds ih =>
    rw [List.forall_mem_cons] at hds
    -- The language of several directives is a product, as the list is a head and a tail
    rw [List.map_cons, List.prod_cons]
    simp only [Language.mem_mul]
    constructor
    · intro h
      obtain ⟨s, h⟩ := h
      -- The first directive took a text of its language, the others one of theirs behind it
      obtain ⟨u, behind, hfinds, h⟩ :=
        (readFrom_cons_eq_ok_iff (Directive.not_custom_of_isFixedWidth hds.1)).1 h
      obtain ⟨first, hfirst, htext⟩ := (Directive.exists_finds_iff hds.1).1 ⟨u, hfinds⟩
      obtain ⟨front, hfront, hbehind⟩ := (ih hds.2 (u.apply soFar)).1 ⟨s, h⟩
      refine ⟨first ++ front, ⟨first, hfirst, front, hfront, rfl⟩, ?_⟩
      rw [htext, hbehind, List.append_assoc]
    · intro h
      obtain ⟨_, ⟨first, hfirst, front, hfront, rfl⟩, rfl⟩ := h
      -- Whatever follows the first text, the first directive takes just that
      rw [List.append_assoc]
      obtain ⟨u, hfinds⟩ := (Directive.exists_finds_iff hds.1).2 ⟨first, hfirst, rfl⟩
      obtain ⟨s, hrest⟩ := (ih hds.2 (u.apply soFar)).2 ⟨front, hfront, rfl⟩
      rw [readFrom, hfinds.read]
      exact ⟨s, hrest⟩

namespace Pattern

/-- The texts that a pattern of fixed width stands for: those of its directives, one after the
    other. -/
def language (p : Pattern) : Language Char := (p.directives.map Directive.language).prod

/-- A pattern of fixed width reads just the texts that begin with a text of its language. There is
    one such beginning at most, and what is left is what stands behind it. -/
theorem exists_read_iff_language {p : Pattern} (hp : ∀ d ∈ p.directives, d.isFixedWidth = true)
    (text : List Char) :
    ((∃ r, p.read text = .ok r) ↔ ∃ front ∈ p.language, front <+: text) ∧
    (∀ front ∈ p.language, ∀ front' ∈ p.language,
      front <+: text → front' <+: text → front = front') ∧
    ∀ r, p.read text = .ok r → ∃ front ∈ p.language, text = front ++ r.rest := by
  have hiff : ∀ rest, (∃ s, p.read text = .ok ⟨s, rest⟩) ↔
      ∃ front ∈ p.language, text = front ++ rest := fun rest => exists_readFrom_iff hp default
  refine ⟨⟨?_, ?_⟩, ?_, ?_⟩
  · intro h
    obtain ⟨r, hread⟩ := h
    obtain ⟨front, hfront, htext⟩ := (hiff r.rest).1 ⟨r.stamp, hread⟩
    exact ⟨front, hfront, r.rest, htext.symm⟩
  · intro h
    obtain ⟨front, hfront, rest, htext⟩ := h
    obtain ⟨s, hread⟩ := (hiff rest).2 ⟨front, hfront, htext.symm⟩
    exact ⟨_, hread⟩
  · -- Two beginnings are read with the same result, so the same is left behind both
    intro front hfront front' hfront' hbegins hbegins'
    obtain ⟨rest, htext⟩ := hbegins
    obtain ⟨rest', htext'⟩ := hbegins'
    obtain ⟨s, hread⟩ := (hiff rest).2 ⟨front, hfront, htext.symm⟩
    obtain ⟨s', hread'⟩ := (hiff rest').2 ⟨front', hfront', htext'.symm⟩
    rw [hread] at hread'
    cases hread'
    exact List.append_cancel_right (htext.trans htext'.symm)
  · intro r h
    exact (hiff r.rest).1 ⟨r.stamp, h⟩

/-- Two offsets, a digit that stands for itself and a year, with nothing between them. A digit of
    another script is left. -/
theorem exists_read_iff_language_offsets :
    let p : Pattern := ⟨[.offsetCompact, .offsetColon, .literal '7', .year2]⟩
    (∀ d ∈ p.directives, d.isFixedWidth = true) ∧
      ∃ front ∈ p.language, "-123005:06770١".toList = front ++ ['١'] := by
  intro p
  have hp : ∀ d ∈ p.directives, d.isFixedWidth = true := by decide
  have hread : p.read "-123005:06770١".toList =
      .ok ⟨⟨⟨1970, .january, 0⟩, ⟨0, 0, 0, 0⟩, 306⟩, ['١']⟩ := rfl
  exact ⟨hp, (exists_read_iff_language hp _).2.2 _ hread⟩

end Pattern

end TimePattern
