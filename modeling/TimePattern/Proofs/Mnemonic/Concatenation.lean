import Mathlib.Algebra.Group.Nat.Even
import TimePattern.Mnemonic

/-!
# Texts put together

The pattern of two texts in a row is that of the first followed by that of the second, unless
something spans the seam: a mnemonic that the first text begins and the second goes on with, or a
backslash at the end of the first that escapes what the second begins with. Which of several
backslashes in a row are escaped is told by their number, whatever stands before them.

## Key results

- `mem_continuing_iff`: the characters with which a mnemonic can go on
- `first_append`: the first directive of a text, with another text behind it
- `even_closingBackslashes_first`: what is left behind a directive has no open escape either
- `compile_append`: the pattern of two texts in a row
-/

namespace TimePattern.Mnemonic

variable {spelling s t : List Char}

/-! ## Mnemonics across a seam -/

/-- The characters that stand in a mnemonic behind its first one. -/
def continuing : List Char :=
  ['Y', 'M', 'o', 'n', 'm', 'D', 'P', 'O', 'C', 'H', 'Z', ':', 'I', 'N', 'S']

/-- These are all characters with which a mnemonic can go on, and no others. -/
theorem mem_continuing_iff {c : Char} :
    c ∈ continuing ↔ ∃ entry ∈ table, c ∈ entry.1.tail := by
  have hall : table.flatMap (·.1.tail) ⊆ continuing := by decide
  have hothers : continuing ⊆ table.flatMap (·.1.tail) := by decide
  rw [← List.mem_flatMap]
  exact ⟨fun h => hothers h, fun h => hall h⟩

/-- A spelling that does not hold the character behind the seam does not span it. -/
theorem isPrefixOf?_append (ht : ∀ c ∈ t.head?, c ∉ spelling) :
    spelling.isPrefixOf? (s ++ t) = (spelling.isPrefixOf? s).map (· ++ t) := by
  induction spelling generalizing s with
  | nil => rfl
  | cons a spelling ih =>
    cases s with
    | nil =>
      cases t with
      | nil => rfl
      | cons b t =>
        -- The spelling would have to go on with the character behind the seam
        have hab : (a == b) = false := by
          have hb := ht b rfl
          simp only [List.mem_cons, not_or] at hb
          exact beq_false_of_ne (Ne.symm hb.1)
        show (if a == b then spelling.isPrefixOf? t else none) = none
        rw [hab]
        rfl
    | cons c s =>
      have htail := ih (s := s) fun b hb hmem => ht b hb (List.mem_cons_of_mem a hmem)
      show (if a == c then spelling.isPrefixOf? (s ++ t) else none) =
        (if a == c then spelling.isPrefixOf? s else none).map (· ++ t)
      rw [htail]
      split <;> rfl

/-- Behind a text that is not empty, the first character of the spelling does not count. -/
theorem isPrefixOf?_cons_append {c : Char} (ht : ∀ b ∈ t.head?, b ∉ spelling.tail) :
    spelling.isPrefixOf? (c :: (s ++ t)) = (spelling.isPrefixOf? (c :: s)).map (· ++ t) := by
  cases spelling with
  | nil => rfl
  | cons a spelling =>
    have htail : ∀ b ∈ t.head?, b ∉ spelling := ht
    show (if a == c then spelling.isPrefixOf? (s ++ t) else none) =
      (if a == c then spelling.isPrefixOf? s else none).map (· ++ t)
    rw [isPrefixOf?_append htail]
    split <;> rfl

/-- A search finds the same with functions that agree on the list. -/
theorem findSome?_congr {α β : Type} {f g : α → Option β} {l : List α}
    (h : ∀ a ∈ l, f a = g a) : l.findSome? f = l.findSome? g := by
  induction l with
  | nil => rfl
  | cons a l ih =>
    rw [List.forall_mem_cons] at h
    rw [List.findSome?_cons, List.findSome?_cons, h.1, ih h.2]

/-- The mnemonic at the front of a text is the same with a text behind it that does not go on with
    a mnemonic. -/
theorem mnemonic?_append {c : Char} (ht : ∀ b ∈ t.head?, b ∉ continuing) :
    mnemonic? (c :: (s ++ t)) = (mnemonic? (c :: s)).map fun (d, rest) => (d, rest ++ t) := by
  rw [mnemonic?, mnemonic?, List.map_findSome?]
  -- The mnemonics are tried in one order, and each behaves alike on both texts
  apply findSome?_congr
  intro entry hmem
  have hentry : ∀ b ∈ t.head?, b ∉ entry.1.tail :=
    fun b hb hin => ht b hb (mem_continuing_iff.2 ⟨entry, hmem, hin⟩)
  simp only [isPrefixOf?_cons_append hentry, Function.comp_apply, Option.map_map]
  rfl

/-! ## Escapes across a seam -/

/-- How many backslashes the text ends with. -/
def closingBackslashes (text : List Char) : Nat :=
  (text.reverse.takeWhile (· = '\\')).length

/-- Another character in front does not change the number of backslashes at the end. -/
theorem closingBackslashes_cons_of_ne {c : Char} (hc : c ≠ '\\') :
    closingBackslashes (c :: s) = closingBackslashes s := by
  simp only [closingBackslashes, List.reverse_cons, List.takeWhile_append]
  split
  · -- The run goes through all of the rest and ends at this character
    next hlen => simp [hc, hlen]
  · rfl

/-- Neither does a text without backslashes. -/
theorem closingBackslashes_append_of_not_mem (h : '\\' ∉ s) :
    closingBackslashes (s ++ t) = closingBackslashes t := by
  induction s with
  | nil => rfl
  | cons c s ih =>
    rw [List.mem_cons, not_or] at h
    rw [List.cons_append, closingBackslashes_cons_of_ne (Ne.symm h.1), ih h.2]

/-- An escape in front adds two backslashes at the end of a text or none. -/
theorem even_closingBackslashes_escape (c : Char) :
    Even (closingBackslashes ('\\' :: c :: s)) ↔ Even (closingBackslashes s) := by
  by_cases hc : c = '\\'
  · subst hc
    simp only [closingBackslashes, List.reverse_cons, List.append_assoc, List.takeWhile_append]
    split
    · next hlen =>
      have htwo : Even 2 := ⟨1, rfl⟩
      simp [hlen, Nat.even_add, htwo]
    · rfl
  · -- The run of backslashes cannot reach over another character
    have hrun : closingBackslashes ('\\' :: c :: s) = closingBackslashes (c :: s) := by
      simp only [closingBackslashes, List.reverse_cons, List.append_assoc, List.takeWhile_append]
      split <;> simp [hc]
    rw [hrun, closingBackslashes_cons_of_ne hc]

/-- No mnemonic holds a backslash. -/
theorem backslash_not_mem_of_mem_table : ∀ entry ∈ table, '\\' ∉ entry.1 := by
  decide

/-! ## One directive -/

/-- What a character stands for where no mnemonic begins is the same with a text behind, unless it
    is an open escape. -/
theorem character_append {c : Char} {cs : List Char} (hs : c :: cs ≠ ['\\']) :
    character c (cs ++ t) = ((character c cs).1, (character c cs).2 ++ t) := by
  by_cases hc : c = '\\'
  · -- A backslash at the end is the one character that would look behind the seam
    cases cs with
    | nil => exact absurd (by rw [hc]) hs
    | cons escaped cs => simp [character, hc]
  · simp only [character, if_neg hc]
    split <;> rfl

/-- The first directive of a text that does not end with an open escape is the same with another
    text behind it that does not go on with a mnemonic. -/
theorem first_append {c : Char} {cs : List Char} (hs : c :: cs ≠ ['\\'])
    (ht : ∀ b ∈ t.head?, b ∉ continuing) :
    first c (cs ++ t) = ((first c cs).1, (first c cs).2 ++ t) := by
  rw [first, first, mnemonic?_append ht]
  cases mnemonic? (c :: cs) with
  | some found => rfl
  | none => exact character_append hs

/-- Neither an escape nor a plain character leaves an open escape behind if there was none. -/
theorem even_closingBackslashes_character {c : Char} {cs : List Char}
    (h : Even (closingBackslashes (c :: cs))) :
    Even (closingBackslashes (character c cs).2) := by
  by_cases hc : c = '\\'
  · subst hc
    -- A backslash takes the character behind it along, or stands alone and would be an open escape
    cases cs with
    | nil => exact absurd h (by decide)
    | cons escaped cs => exact (even_closingBackslashes_escape escaped).1 h
  · rw [closingBackslashes_cons_of_ne hc] at h
    simp only [character, if_neg hc]
    split <;> exact h

/-- If a text has no open escape at its end, then neither has what its first directive leaves. -/
theorem even_closingBackslashes_first {c : Char} {cs : List Char}
    (h : Even (closingBackslashes (c :: cs))) : Even (closingBackslashes (first c cs).2) := by
  rw [first]
  cases hmnemonic : mnemonic? (c :: cs) with
  | none => exact even_closingBackslashes_character h
  | some found =>
    -- There are no backslashes in a mnemonic
    obtain ⟨entry, hmem, hentry⟩ := List.exists_of_findSome?_eq_some hmnemonic
    obtain ⟨rest, hrest, rfl⟩ := Option.map_eq_some_iff.1 hentry
    rwa [eq_append_of_isPrefixOf? hrest,
      closingBackslashes_append_of_not_mem (backslash_not_mem_of_mem_table entry hmem)] at h

/-! ## All directives -/

/-- The directives of two texts in a row are those of the first and then those of the second. -/
theorem directives_append (hs : Even (closingBackslashes s))
    (ht : ∀ c ∈ t.head?, c ∉ continuing) : directives (s ++ t) = directives s ++ directives t := by
  -- What each directive leaves of `s` meets the same two conditions
  induction s using directives.induct with
  | case1 => simp [directives]
  | case2 c cs ih =>
    -- One backslash is an odd number of them
    have hopen : c :: cs ≠ ['\\'] := by
      intro heq
      rw [heq] at hs
      exact absurd hs (by decide)
    have hrest := ih (even_closingBackslashes_first hs)
    rw [List.cons_append, directives, directives, first_append hopen ht, hrest]
    rfl

/-- The pattern of two texts in a row is the one pattern followed by the other, if the first text
    ends with an even number of backslashes, perhaps none, and the second does not begin with a
    character with which a mnemonic goes on. -/
theorem compile_append (hs : Even (closingBackslashes s)) (ht : ∀ c ∈ t.head?, c ∉ continuing) :
    compile (s ++ t) = compile s ++ compile t :=
  congrArg Pattern.mk (directives_append hs ht)

/-- The first text ends with half a mnemonic and two backslashes of which the first escapes the
    second, and the second text begins with a mnemonic. -/
theorem compile_append_afterEscape :
    let s := ['Z', 'Z', ':', '\\', '\\']
    let t := ['h', 'Z', 'Z']
    (Even (closingBackslashes s) ∧ ∀ c ∈ t.head?, c ∉ continuing) ∧
      compile (s ++ t) = compile s ++ compile t := by
  intro s t
  have hs : Even (closingBackslashes s) := by decide
  have ht : ∀ c ∈ t.head?, c ∉ continuing := by
    rintro _ ⟨⟩
    decide
  exact ⟨⟨hs, ht⟩, compile_append hs ht⟩

end TimePattern.Mnemonic
