import TimePattern.Print
import TimePattern.Proofs.Field.WrittenNumber
import TimePattern.Proofs.Mnemonic.Concatenation
import TimePattern.Proofs.Mnemonic.Takes
import TimePattern.Proofs.Reading.Finds

/-!
# Escaped texts

With a backslash before each of its characters a text is literal wherever it stands: no character of
it joins a mnemonic, neither one that begins before it nor one that follows it. Such a text prints
as itself, and reading takes it from the front of any input.

## Key results

- `directives_escaped_append`: an escaped text in front of another text
- `readFrom_literals`: literals read the characters that they stand for and find nothing out
- `compile_escaped`: an escaped text within a text in mnemonic notation
-/

namespace TimePattern

/-! ## Literals -/

/-- Literals print the characters that they stand for. -/
theorem Pattern.print_literals (text : List Char) (m : Moment) :
    (Pattern.mk (text.map .literal)).print m = text := by
  simp [Pattern.print, Directive.print, List.flatMap_map]

/-- Literals read the characters that they stand for, and leave what was found before as it is. -/
theorem readFrom_literals (soFar : Stamp) (text rest : List Char) :
    readFrom soFar (text ++ rest) (text.map .literal) = .ok ⟨soFar, rest⟩ := by
  induction text with
  | nil => rfl
  | cons c text ih =>
    have hfinds : (Directive.literal c).Finds (c :: (text ++ rest)) .nothing (text ++ rest) :=
      Directive.finds_of_field rfl (Field.literal_self c (text ++ rest)) rfl
    exact (readFrom_cons_eq_ok_iff rfl).2 ⟨_, _, hfinds, ih⟩

namespace Mnemonic

/-! ## Escapes -/

/-- The text with a backslash before each of its characters. -/
def escaped (text : List Char) : List Char := text.flatMap fun c => ['\\', c]

/-- An escaped text stands for its characters, and what follows it stands for itself. -/
theorem directives_escaped_append (text rest : List Char) :
    directives (escaped text ++ rest) = text.map .literal ++ directives rest := by
  induction text with
  | nil => rfl
  | cons c text ih =>
    -- A backslash takes the next character with it, whichever that is
    have htakes : Takes ('\\' :: c :: (escaped text ++ rest)) (.literal c) (escaped text ++ rest) :=
      takes_of_character rfl rfl
    exact htakes.directives.trans (congrArg (_ :: ·) ih)

/-- The directives of an escaped text are its characters as literals. -/
theorem directives_escaped (text : List Char) : directives (escaped text) = text.map .literal := by
  have hempty := directives_escaped_append text []
  rwa [List.append_nil, directives, List.append_nil] at hempty

/-- No mnemonic goes on with a backslash. -/
theorem not_mem_continuing_of_escaped (text rest : List Char) (h : text ≠ []) :
    ∀ c ∈ (escaped text ++ rest).head?, c ∉ continuing := by
  cases text with
  | nil => exact absurd rfl h
  | cons c text =>
    rintro _ ⟨⟩
    decide

/-- A text that is escaped stands for its characters, wherever it is put into a text in mnemonic
    notation that does not end with an open escape; what stands before it and behind it keeps its
    meaning. By itself it prints as what was escaped, and reads it from the front of any input. -/
theorem compile_escaped (text : List Char) :
    (∀ before behind, Even (closingBackslashes before) → text ≠ [] →
      compile (before ++ escaped text ++ behind) =
        compile before ++ ⟨text.map .literal⟩ ++ compile behind) ∧
    (∀ m, (compile (escaped text)).print m = text) ∧
    ∀ rest, (compile (escaped text)).read (text ++ rest) = .ok ⟨default, rest⟩ := by
  have hcompile : compile (escaped text) = ⟨text.map .literal⟩ :=
    congrArg Pattern.mk (directives_escaped text)
  refine ⟨fun before behind hbefore hne => ?_, fun m => ?_, fun rest => ?_⟩
  · -- The seam in front is safe because of the backslash, the one behind because nothing is left
    -- open
    have hseam := not_mem_continuing_of_escaped text behind hne
    have hdirectives := directives_append hbefore hseam
    rw [directives_escaped_append, ← List.append_assoc, ← List.append_assoc] at hdirectives
    exact congrArg Pattern.mk hdirectives
  · rw [hcompile]
    exact Pattern.print_literals text m
  · rw [hcompile]
    exact readFrom_literals default text rest

/-- Between the halves of `YYYY`, and made of a backslash, a space, and the rest of a mnemonic. -/
theorem compile_escaped_betweenHalves :
    let text := ['\\', ' ', 'o', 'n']
    (Even (closingBackslashes ['M', 'Y', 'Y']) ∧ text ≠ []) ∧
      compile (['M', 'Y', 'Y'] ++ escaped text ++ ['Y', 'Y']) =
        compile ['M', 'Y', 'Y'] ++ ⟨text.map .literal⟩ ++ compile ['Y', 'Y'] := by
  intro text
  have hbefore : Even (closingBackslashes ['M', 'Y', 'Y']) := by decide
  have hne : text ≠ [] := List.cons_ne_nil _ _
  exact ⟨⟨hbefore, hne⟩, (compile_escaped text).1 _ _ hbefore hne⟩

end Mnemonic

end TimePattern
