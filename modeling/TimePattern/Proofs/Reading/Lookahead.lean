import TimePattern.Proofs.Field.OffsetText
import TimePattern.Proofs.Reading.Finds

/-!
# How far a reading looks ahead

A reader of a field takes some characters and looks at one more at most, to see whether it is
another digit. What a pattern reads is therefore settled by the characters that it takes and by
whether a digit follows: the text behind them may be cut off, and may grow.

## Key results

- `Field.Steady`: the law of one reader, with a lemma for each of them
- `Directive.Finds.steady`: a built-in directive finds the same in front of another text
- `readFrom_steady`: so do directives one after the other
- `Pattern.exists_taken_of_read`: the text that a pattern takes, alone and in front of more text
-/

namespace TimePattern

open Decimal (EndsRun)

/-- Whether a run ends behind some characters is told by the first of them, if there is one. -/
theorem Decimal.endsRun_append_of_imp {rest rest' : List Char} (h : EndsRun rest → EndsRun rest')
    (front : List Char) : EndsRun (front ++ rest) → EndsRun (front ++ rest') := by
  cases front with
  | nil => exact h
  | cons c front => simp

/-! ## Fields -/

namespace Field

/-- The reader takes at least one character, and takes the same ones in front of any other text
    that does not begin with a digit where the first one did not. -/
def Steady {α : Type} (field : Reader α) : Prop :=
  ∀ {text rest : List Char} {a : α}, field text = some (a, rest) →
    ∃ taken, taken ≠ [] ∧ text = taken ++ rest ∧
      ∀ rest', (EndsRun rest → EndsRun rest') → field (taken ++ rest') = some (a, rest')

/-- A fixed number of digits does not even look at the character behind them. -/
theorem steady_fixedDigits (count : Nat) : Steady (fixedDigits count) := by
  intro text rest n h
  obtain ⟨digits, htext, hall, hlen, hpos, hn, hmax⟩ := fixedDigits_eq_some_iff.1 h
  refine ⟨digits, List.length_pos_iff.1 (by omega), htext, fun rest' _ => ?_⟩
  exact fixedDigits_eq_some_iff.2 ⟨digits, rfl, hall, hlen, hpos, hn, hmax⟩

theorem steady_shortDigits : Steady shortDigits := by
  intro text rest n h
  obtain ⟨digits, htext, hall, hlen, hn⟩ := shortDigits_eq_some_iff.1 h
  refine ⟨digits, List.length_pos_iff.1 (by omega), htext, fun rest' hends => ?_⟩
  -- A single digit was the whole run, and still is
  exact shortDigits_eq_some_iff.2 ⟨digits, rfl, hall, hlen.imp_right (.imp_right hends), hn⟩

/-- A run of digits is whole if none follows, which is all that it depends on. -/
theorem steady_boundedRun (limit : Nat) : Steady (boundedRun limit) := by
  intro text rest n h
  obtain ⟨digits, htext, hall, hne, hrest, hn, hle⟩ := boundedRun_eq_some_iff.1 h
  refine ⟨digits, hne, htext, fun rest' hends => ?_⟩
  -- The run was whole and is so again, since nothing is added that goes on with it
  exact boundedRun_eq_some_iff.2 ⟨digits, rfl, hall, hne, hends hrest, hn, hle⟩

theorem steady_yearTwoDigit : Steady yearTwoDigit := by
  intro text rest n h
  simp only [yearTwoDigit, Option.map_eq_some_iff, Prod.mk.injEq] at h
  obtain ⟨⟨m, rest'⟩, hread, rfl, rfl⟩ := h
  obtain ⟨taken, hne, htext, hfront⟩ := steady_fixedDigits 2 hread
  refine ⟨taken, hne, htext, fun rest' hends => ?_⟩
  rw [yearTwoDigit, hfront rest' hends]
  rfl

theorem steady_literal (c : Char) : Steady (literal c) := by
  intro text rest d h
  obtain ⟨hd, htext⟩ := literal_eq_some_iff.1 h
  exact ⟨[c], List.cons_ne_nil c [], htext, fun rest' _ => literal_eq_some_iff.2 ⟨hd, rfl⟩⟩

/-- An offset of hours and minutes has its width, whatever follows. -/
theorem steady_of_offsetText {field : Reader Int} {separator : List Char}
    (hfield : ∀ {m : Int} {text rest : List Char}, field text = some (m, rest) ↔
      ∃ taken, OffsetText separator m taken ∧ text = taken ++ rest) : Steady field := by
  intro text rest m h
  obtain ⟨taken, hm, htext⟩ := hfield.1 h
  exact ⟨taken, hm.ne_nil, htext, fun rest' _ => hfield.2 ⟨taken, hm, rfl⟩⟩

/-- An offset in minutes ends with a run of digits. -/
theorem steady_offsetMinutes : Steady offsetMinutes := by
  intro text rest m h
  obtain ⟨taken, hm, hrest, htext⟩ := offsetMinutes_eq_some_iff.1 h
  refine ⟨taken, hm.ne_nil, htext, fun rest' hends => ?_⟩
  exact offsetMinutes_eq_some_iff.2 ⟨taken, hm, hends hrest, rfl⟩

end Field

/-! ## Directives -/

namespace Directive

/-- What a directive finds is settled by the characters that its field reader takes. -/
theorem finds_steady_of_field {d : Directive} {α : Type} {what : String} {field : Reader α}
    {finding : α → Except Cause Update} (hscan : d.scan? = some (expecting what field finding))
    (hfield : Field.Steady field) {text rest : List Char} {u : Update} (h : d.Finds text u rest) :
    ∃ taken, taken ≠ [] ∧ text = taken ++ rest ∧
      ∀ rest', (EndsRun rest → EndsRun rest') → d.Finds (taken ++ rest') u rest' := by
  obtain ⟨a, hread, hu⟩ := exists_of_finds hscan h
  obtain ⟨taken, hne, htext, hfront⟩ := hfield hread
  exact ⟨taken, hne, htext, fun rest' hends => finds_of_field hscan (hfront rest' hends) hu⟩

/-- A built-in directive takes at least one character, and finds the same in them whatever
    follows, unless a digit follows where none did. -/
theorem Finds.steady {d : Directive} {text rest : List Char} {u : Update}
    (h : d.Finds text u rest) :
    ∃ taken, taken ≠ [] ∧ text = taken ++ rest ∧
      ∀ rest', (EndsRun rest → EndsRun rest') → d.Finds (taken ++ rest') u rest' := by
  -- By the field reader of the directive
  cases d with
  | year | unixSecond => exact finds_steady_of_field rfl (Field.steady_boundedRun _) h
  | month | day => exact finds_steady_of_field rfl Field.steady_shortDigits h
  | year4 | month2 | day2 | hour | minute | second =>
    exact finds_steady_of_field rfl (Field.steady_fixedDigits _) h
  | year2 => exact finds_steady_of_field rfl Field.steady_yearTwoDigit h
  | offsetColon => exact
    finds_steady_of_field rfl (Field.steady_of_offsetText Field.offsetColon_eq_some_iff) h
  | offsetCompact => exact
    finds_steady_of_field rfl (Field.steady_of_offsetText Field.offsetCompact_eq_some_iff) h
  | offsetMinutes => exact finds_steady_of_field rfl Field.steady_offsetMinutes h
  | literal c => exact finds_steady_of_field rfl (Field.steady_literal c) h
  | monthShort | dayOfYear | zoneName | space | custom d =>
    obtain ⟨scan, hscan, -⟩ := h
    cases hscan

end Directive

/-! ## Patterns -/

/-- Built-in directives take a character each, and read the same in front of any other text, unless
    it begins with a digit where none stood. -/
theorem readFrom_steady {ds : List Directive} (hds : ∀ d ∈ ds, d.isCustom = false) {soFar : Stamp}
    {text : List Char} {r : Reading} (h : readFrom soFar text ds = .ok r) :
    ∃ taken, ds.length ≤ taken.length ∧ text = taken ++ r.rest ∧
      ∀ rest', (EndsRun r.rest → EndsRun rest') →
        readFrom soFar (taken ++ rest') ds = .ok ⟨r.stamp, rest'⟩ := by
  induction ds generalizing soFar text with
  | nil =>
    cases h
    exact ⟨[], Nat.le_refl 0, rfl, fun rest' _ => rfl⟩
  | cons d ds ih =>
    rw [List.forall_mem_cons] at hds
    obtain ⟨u, behind, hfinds, h⟩ := (readFrom_cons_eq_ok_iff hds.1).1 h
    obtain ⟨first, hne, htext, hfirst⟩ := hfinds.steady
    obtain ⟨taken, hlen, hbehind, hrun⟩ := ih hds.2 h
    have hpos := List.length_pos_iff.2 hne
    refine ⟨first ++ taken, ?_, ?_, ?_⟩
    · simp only [List.length_cons, List.length_append]
      omega
    · rw [htext, hbehind, List.append_assoc]
    · intro rest' hends
      -- Behind the first directive stands what the others take, and only then the new text
      have hseam := Decimal.endsRun_append_of_imp hends taken
      rw [← hbehind] at hseam
      rw [List.append_assoc]
      exact (readFrom_cons_eq_ok_iff hds.1).2 ⟨u, _, hfirst _ hseam, hrun rest' hends⟩

/-- A pattern of built-in directives takes a front part of the text, with a character at least for
    each directive. It reads this part alone in the same way, and when more text is added behind
    the whole, it leaves that too, unless nothing was left and a digit is added. -/
theorem Pattern.exists_taken_of_read {p : Pattern} (hp : ∀ d ∈ p.directives, d.isCustom = false)
    {text : List Char} {r : Reading} (h : p.read text = .ok r) :
    ∃ taken, text = taken ++ r.rest ∧ p.length ≤ taken.length ∧
      p.read taken = .ok ⟨r.stamp, []⟩ ∧
      ∀ more, r.rest ≠ [] ∨ EndsRun more → p.read (text ++ more) = .ok ⟨r.stamp, r.rest ++ more⟩ := by
  obtain ⟨taken, hlen, htext, hrun⟩ := readFrom_steady hp h
  refine ⟨taken, htext, hlen, ?_, fun more hmore => ?_⟩
  · -- With nothing behind it, the run at the end is whole as well
    have halone := hrun [] fun _ => Decimal.endsRun_nil
    rwa [List.append_nil] at halone
  · -- If something was left, then the new text does not stand next to what was taken
    have hends : EndsRun r.rest → EndsRun (r.rest ++ more) := by
      intro hrest
      cases hleft : r.rest with
      | nil => exact hmore.resolve_left (fun hne => hne hleft)
      | cons c left => rwa [hleft] at hrest
    have hall := hrun (r.rest ++ more) hends
    rwa [← List.append_assoc, ← htext] at hall

/-- A month of one digit and an offset, with nothing left: a letter may be added, a digit not. -/
theorem Pattern.exists_taken_of_read_monthAndOffset :
    let p : Pattern := ⟨[.month, .literal '/', .offsetMinutes]⟩
    let s : Stamp := ⟨⟨0, .july, 0⟩, ⟨0, 0, 0, 0⟩, -90⟩
    (∀ d ∈ p.directives, d.isCustom = false) ∧ p.read "7/-90".toList = .ok ⟨s, []⟩ ∧
      ∃ taken, "7/-90".toList = taken ++ [] ∧ 3 ≤ taken.length ∧ p.read taken = .ok ⟨s, []⟩ ∧
        ∀ more, ([] : List Char) ≠ [] ∨ EndsRun more →
          p.read ("7/-90".toList ++ more) = .ok ⟨s, [] ++ more⟩ := by
  intro p s
  have hp : ∀ d ∈ p.directives, d.isCustom = false := by decide
  have hread : p.read "7/-90".toList = .ok ⟨s, []⟩ := rfl
  exact ⟨hp, hread, Pattern.exists_taken_of_read hp hread⟩

end TimePattern
