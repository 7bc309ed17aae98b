import TimePattern.Pattern

/-!
# The mnemonic notation

Patterns are written down as text in which `YYYY` stands for a year, `MM` for a month and so on.
A backslash makes the next character literal, a space stands for itself, and every other
character is literal too, so each text denotes a pattern.

* `compile`     the pattern that a text denotes
* `render`      a text for a pattern
* `first_rest_length`  each directive takes at least one character
-/

namespace TimePattern.Mnemonic

/-- The mnemonics, in the order in which they are tried. -/
def table : List (List Char × Directive) :=
  [(['Y', 'Y', 'Y', 'Y'], .year4),
   (['Y', 'Y'], .year2),
   (['M', 'M'], .month2),
   (['M', 'o', 'n'], .monthShort),
   (['m', 'm'], .minute),
   (['M'], .month),
   (['D', 'D'], .day2),
   (['h'], .hour),
   (['s'], .second),
   (['E', 'P', 'O', 'C', 'H'], .unixSecond),
   (['Z', 'Z', 'Z', 'Z'], .offsetCompact),
   (['Z', 'Z', ':', 'Z', 'Z'], .offsetColon),
   (['Z', 'M', 'I', 'N', 'S'], .offsetMinutes)]

/-- The mnemonic at the front of a text, and the text behind it. -/
def mnemonic? (text : List Char) : Option (Directive × List Char) :=
  table.findSome? fun (spelling, d) => (spelling.isPrefixOf? text).map (d, ·)

/-- The directive that a character stands for where no mnemonic begins. A backslash takes the
    next character with it; at the end of the text it is a character like any other. -/
def character (c : Char) (rest : List Char) : Directive × List Char :=
  if c = '\\' then
    match rest with
    | [] => (.literal c, [])
    | escaped :: rest => (.literal escaped, rest)
  else if c = ' ' then (.space, rest)
  else (.literal c, rest)

/-- The first directive of the text `c :: rest`, and the text behind it. -/
def first (c : Char) (rest : List Char) : Directive × List Char :=
  (mnemonic? (c :: rest)).getD (character c rest)

/-- What `isPrefixOf?` leaves of a text is what stands behind the prefix. -/
theorem eq_append_of_isPrefixOf? {spelling text rest : List Char}
    (h : spelling.isPrefixOf? text = some rest) : text = spelling ++ rest := by
  induction spelling generalizing text with
  | nil => exact Option.some.inj h
  | cons c spelling ih =>
    cases text with
    | nil => cases h
    | cons c' text =>
      -- The first characters are compared before the rest is looked at
      have hstep : (if c == c' then spelling.isPrefixOf? text else none) = some rest := h
      split at hstep
      · next hc =>
        rw [ih hstep, eq_of_beq hc]
        rfl
      · cases hstep

/-- No mnemonic is empty. -/
theorem ne_nil_of_mem_table {entry : List Char × Directive} (h : entry ∈ table) :
    entry.1 ≠ [] := by
  simp only [table, List.mem_cons, List.not_mem_nil, or_false] at h
  rcases h with h | h | h | h | h | h | h | h | h | h | h | h | h <;> simp [h]

/-- A mnemonic takes at least one character of the text. -/
theorem mnemonic?_rest_length {text rest : List Char} {d : Directive}
    (h : mnemonic? text = some (d, rest)) : rest.length < text.length := by
  obtain ⟨entry, hmem, hentry⟩ := List.exists_of_findSome?_eq_some h
  obtain ⟨r, hr, heq⟩ := Option.map_eq_some_iff.1 hentry
  cases heq
  have hpos := List.length_pos_iff.2 (ne_nil_of_mem_table hmem)
  rw [eq_append_of_isPrefixOf? hr, List.length_append]
  omega

/-- Where no mnemonic begins, at least one character is taken all the same. -/
theorem character_rest_length (c : Char) (rest : List Char) :
    (character c rest).2.length < (c :: rest).length := by
  unfold character
  split
  · split
    · simp
    · simp only [List.length_cons]; omega
  · split <;> simp

/-- Each directive takes at least one character of the text. -/
theorem first_rest_length (c : Char) (rest : List Char) :
    (first c rest).2.length < (c :: rest).length := by
  unfold first
  cases h : mnemonic? (c :: rest) with
  | none => exact character_rest_length c rest
  | some t => exact mnemonic?_rest_length h

/-- The directives of a text, from left to right. -/
def directives : List Char → List Directive
  | [] => []
  | c :: rest => (first c rest).1 :: directives (first c rest).2
termination_by text => text.length
decreasing_by exact first_rest_length c rest

/-- The pattern that a text denotes. Every text denotes one. -/
def compile (text : List Char) : Pattern := ⟨directives text⟩

/-! ## Writing patterns down -/

/-- A name in braces, for directives that have no mnemonic. -/
def braced (name : List Char) : List Char := '\x7b' :: (name ++ ['\x7d'])

/-- A directive in mnemonic notation. Literal letters are escaped, so that they never join a
    mnemonic next to them. -/
def spell : Directive → List Char
  | .year => braced ['Y', 'e', 'a', 'r']
  | .year4 => ['Y', 'Y', 'Y', 'Y']
  | .year2 => ['Y', 'Y']
  | .month => ['M']
  | .month2 => ['M', 'M']
  | .monthShort => ['M', 'o', 'n']
  | .dayOfYear => braced ['D', 'a', 'y', 'O', 'f', 'Y', 'e', 'a', 'r']
  | .day => braced ['D', 'a', 'y']
  | .day2 => ['D', 'D']
  | .hour => ['h']
  | .minute => ['m', 'm']
  | .second => ['s']
  | .unixSecond => ['E', 'P', 'O', 'C', 'H']
  | .zoneName => braced ['T', 'z', 'N', 'a', 'm', 'e']
  | .offsetColon => ['Z', 'Z', ':', 'Z', 'Z']
  | .offsetCompact => ['Z', 'Z', 'Z', 'Z']
  | .offsetMinutes => ['Z', 'M', 'I', 'N', 'S']
  | .space => [' ']
  | .literal c => if c.isAlpha ∨ c = '\\' ∨ c = ' ' then ['\\', c] else [c]
  | .custom d => braced d.name.toList

/-- A pattern in mnemonic notation. -/
def render (p : Pattern) : List Char := p.directives.flatMap spell

end TimePattern.Mnemonic
