import Mathlib.Data.List.Forall2
import TimePattern.Proofs.Mnemonic.Takes

/-!
# Longest match

A text in mnemonic notation falls into slices, each of which stands for one directive: a mnemonic,
a backslash with the character behind it, or a single character. Among the slices that a text can
begin with, the longest counts. This says nothing of an order in which mnemonics are tried, and it
leaves only one way to slice a text.

## Key results

- `table_pairwise`: no mnemonic is tried before a longer one that begins with it
- `Takes.exists_longest`: the first directive of a text is that of its longest slice
- `Slices.unique`: a text is sliced in one way
- `compile_longest_slices`: the pattern of a text holds the directives of its slices
-/

namespace TimePattern.Mnemonic

/-! ## Slices -/

/-- The mnemonics and what they stand for, in no particular order. -/
inductive Spelled : List Char → Directive → Prop
  | year4 : Spelled ['Y', 'Y', 'Y', 'Y'] .year4
  | year2 : Spelled ['Y', 'Y'] .year2
  | month2 : Spelled ['M', 'M'] .month2
  | monthShort : Spelled ['M', 'o', 'n'] .monthShort
  | minute : Spelled ['m', 'm'] .minute
  | month : Spelled ['M'] .month
  | day2 : Spelled ['D', 'D'] .day2
  | hour : Spelled ['h'] .hour
  | second : Spelled ['s'] .second
  | unixSecond : Spelled ['E', 'P', 'O', 'C', 'H'] .unixSecond
  | offsetCompact : Spelled ['Z', 'Z', 'Z', 'Z'] .offsetCompact
  | offsetColon : Spelled ['Z', 'Z', ':', 'Z', 'Z'] .offsetColon
  | offsetMinutes : Spelled ['Z', 'M', 'I', 'N', 'S'] .offsetMinutes

/-- A text that can stand for one directive. -/
inductive IsSlice : List Char → Prop
  | mnemonic {spelling : List Char} {d : Directive} (h : Spelled spelling d) : IsSlice spelling
  | escape (c : Char) : IsSlice ['\\', c]
  | single (c : Char) : IsSlice [c]

/-- What a slice stands for. A single character is literal if it is neither a mnemonic nor a
    space; this includes a backslash that stands alone. -/
inductive Denotes : List Char → Directive → Prop
  | mnemonic {spelling : List Char} {d : Directive} (h : Spelled spelling d) : Denotes spelling d
  | escape (c : Char) : Denotes ['\\', c] (.literal c)
  | space : Denotes [' '] .space
  | single {c : Char} (hspace : c ≠ ' ') (h : ∀ d, ¬ Spelled [c] d) : Denotes [c] (.literal c)

/-- The longest slice that the text begins with. -/
structure LongestSlice (slice text : List Char) : Prop where
  isSlice : IsSlice slice
  isPrefix : slice <+: text
  length_le : ∀ other, IsSlice other → other <+: text → other.length ≤ slice.length

/-- The text cut into slices from left to right, each the longest where it begins. -/
inductive Slices : List Char → List (List Char) → Prop
  | nil : Slices [] []
  | cons {slice rest text : List Char} {slices : List (List Char)} (htext : text = slice ++ rest)
      (hslice : LongestSlice slice text) (hrest : Slices rest slices) :
      Slices text (slice :: slices)

variable {spelling slice slice' text rest : List Char} {d d' : Directive}
  {slices slices' : List (List Char)}

/-- These are the mnemonics of the table. -/
theorem spelled_iff_mem_table :
    Spelled spelling d ↔ (spelling, d) ∈ table := by
  constructor
  · intro h
    cases h <;> simp [table]
  · intro h
    simp only [table, List.mem_cons, Prod.mk.injEq, List.not_mem_nil, or_false] at h
    -- One entry of the table for each constructor
    rcases h with ⟨rfl, rfl⟩ | ⟨rfl, rfl⟩ | ⟨rfl, rfl⟩ | ⟨rfl, rfl⟩ | ⟨rfl, rfl⟩ | ⟨rfl, rfl⟩ |
      ⟨rfl, rfl⟩ | ⟨rfl, rfl⟩ | ⟨rfl, rfl⟩ | ⟨rfl, rfl⟩ | ⟨rfl, rfl⟩ | ⟨rfl, rfl⟩ | ⟨rfl, rfl⟩ <;>
      constructor

/-- A mnemonic stands for one directive. -/
theorem Spelled.unique (h : Spelled spelling d) (h' : Spelled spelling d') : d = d' := by
  cases h <;> cases h' <;> rfl

theorem Spelled.ne_nil (h : Spelled spelling d) : spelling ≠ [] := by
  rintro rfl
  cases h

/-- A slice is not empty, so that cutting a text comes to an end. -/
theorem IsSlice.ne_nil (h : IsSlice slice) : slice ≠ [] := by
  cases h with
  | mnemonic h => exact h.ne_nil
  | escape c => exact List.cons_ne_nil _ _
  | single c => exact List.cons_ne_nil _ _

/-- A slice stands for one directive at most. -/
theorem Denotes.unique (h : Denotes slice d) (h' : Denotes slice d') : d = d' := by
  -- No mnemonic is an escape or a space, and a literal character is neither
  cases h with
  | mnemonic h =>
    cases h' with
    | mnemonic h' => exact h.unique h'
    | escape c => cases h
    | space => cases h
    | single hspace hnone => exact absurd h (hnone d)
  | escape c =>
    cases h' with
    | mnemonic h' => cases h'
    | escape => rfl
  | space =>
    cases h' with
    | mnemonic h' => cases h'
    | space => rfl
    | single hspace => exact absurd rfl hspace
  | single hspace hnone =>
    cases h' with
    | mnemonic h' => exact absurd h' (hnone d')
    | space => exact absurd rfl hspace
    | single => rfl

theorem LongestSlice.unique (h : LongestSlice slice text) (h' : LongestSlice slice' text) :
    slice = slice' := by
  -- Each is at most as long as the other, and both are taken from the front of the text
  have hle := h.length_le slice' h'.isSlice h'.isPrefix
  have hle' := h'.length_le slice h.isSlice h.isPrefix
  exact (List.prefix_of_prefix_length_le h.isPrefix h'.isPrefix hle').eq_of_length
    (Nat.le_antisymm hle' hle)

/-- Nothing of the text is lost between the slices. -/
theorem Slices.flatten_eq (h : Slices text slices) : slices.flatten = text := by
  induction h with
  | nil => rfl
  | cons htext _ _ ih => rw [List.flatten_cons, ih, htext]

/-- None of the slices is empty. -/
theorem Slices.ne_nil_of_mem (h : Slices text slices) : ∀ slice ∈ slices, slice ≠ [] := by
  induction h with
  | nil => exact fun _ hmem => (List.not_mem_nil hmem).elim
  | cons _ hslice _ ih => exact List.forall_mem_cons.2 ⟨hslice.isSlice.ne_nil, ih⟩

/-- A text is cut into longest slices in one way only. -/
theorem Slices.unique (h : Slices text slices) (h' : Slices text slices') :
    slices = slices' := by
  induction h generalizing slices' with
  | nil =>
    cases h' with
    | nil => rfl
    | cons htext hslice _ =>
      exact absurd (List.append_eq_nil_iff.1 htext.symm).1 hslice.isSlice.ne_nil
  | cons htext hslice _ ih =>
    cases h' with
    | nil => exact absurd (List.append_eq_nil_iff.1 htext.symm).1 hslice.isSlice.ne_nil
    | cons htext' hslice' hrest' =>
      -- The first slices agree, hence also what they leave behind
      obtain rfl := hslice.unique hslice'
      rw [htext] at htext'
      obtain rfl := List.append_cancel_left htext'
      rw [ih hrest']

/-! ## Mnemonics -/

/-- No mnemonic is tried before a longer one that begins with it. -/
theorem table_pairwise : table.Pairwise fun entry later => ¬ entry.1 <+: later.1 := by
  decide

/-- A spelling is refused just where it does not stand. -/
theorem isPrefixOf?_eq_none_iff :
    spelling.isPrefixOf? text = none ↔ ¬ spelling <+: text := by
  refine ⟨fun hnone hbegins => ?_, isPrefixOf?_eq_none⟩
  obtain ⟨rest, htext⟩ := hbegins
  rw [List.isPrefixOf?_eq_some_iff_append_eq.2 htext] at hnone
  cases hnone

/-- No mnemonic is read just where none stands. -/
theorem mnemonic?_eq_none_iff :
    mnemonic? text = none ↔ ∀ spelling d, Spelled spelling d → ¬ spelling <+: text := by
  simp only [mnemonic?, List.findSome?_eq_none_iff, Option.map_eq_none_iff,
    isPrefixOf?_eq_none_iff, Prod.forall, spelled_iff_mem_table]

/-- The mnemonic that is read is the longest that stands there. -/
theorem exists_longest_of_mnemonic? (h : mnemonic? text = some (d, rest)) :
    ∃ spelling, Spelled spelling d ∧ text = spelling ++ rest ∧
      ∀ other d', Spelled other d' → other <+: text → other.length ≤ spelling.length := by
  rw [mnemonic?, List.findSome?_eq_some_iff] at h
  obtain ⟨before, ⟨spelling, d₀⟩, after, htable, hentry, hbefore⟩ := h
  obtain ⟨rest', hread, heq⟩ := Option.map_eq_some_iff.1 hentry
  cases heq
  -- The table was searched up to the first mnemonic that stands here
  have htext := eq_append_of_isPrefixOf? hread
  refine ⟨spelling, spelled_iff_mem_table.2 (by rw [htable]; simp), htext, ?_⟩
  intro other d' hother hbegins
  have hmem := spelled_iff_mem_table.1 hother
  rw [htable, List.mem_append, List.mem_cons] at hmem
  rcases hmem with hmem | hmem | hmem
  · -- Tried before: it would have been read
    have hnone := hbefore _ hmem
    rw [Option.map_eq_none_iff, isPrefixOf?_eq_none_iff] at hnone
    exact absurd hbegins hnone
  · cases hmem
    exact Nat.le_refl _
  · -- Tried after: of two mnemonics that stand here one begins with the other
    have horder := table_pairwise
    rw [htable, List.pairwise_append, List.pairwise_cons] at horder
    have hlonger := horder.2.1.1 _ hmem
    rcases List.prefix_or_prefix_of_prefix ⟨rest, htext.symm⟩ hbegins with hshort | hshort
    · exact absurd hshort hlonger
    · exact hshort.length_le

/-! ## The first slice of a text -/

/-- A mnemonic begins with a letter. -/
theorem Spelled.isAlpha_head (h : Spelled spelling d) :
    ∃ c cs, spelling = c :: cs ∧ c.isAlpha = true := by
  cases h <;> exact ⟨_, _, rfl, rfl⟩

/-- The longest mnemonic is the longest slice. -/
theorem longestSlice_of_spelled (h : Spelled spelling d) (hbegins : spelling <+: text)
    (hle : ∀ other d', Spelled other d' → other <+: text → other.length ≤ spelling.length) :
    LongestSlice spelling text := by
  refine ⟨.mnemonic h, hbegins, ?_⟩
  intro other hother hbegins'
  cases hother with
  | mnemonic hspelled => exact hle other _ hspelled hbegins'
  | escape c =>
    -- The mnemonic begins with a letter, where the escape would begin with its backslash
    obtain ⟨letter, cs, rfl, hletter⟩ := h.isAlpha_head
    obtain ⟨rest, rfl⟩ := hbegins
    obtain ⟨rest', htext⟩ := hbegins'
    obtain ⟨rfl, -⟩ := List.cons.inj htext
    cases hletter
  | single c => exact List.length_pos_iff.2 h.ne_nil

/-- Where no mnemonic stands, the longest slice is an escape, or else a single character. -/
theorem exists_longest_of_character {c : Char} {cs : List Char}
    (hnone : mnemonic? (c :: cs) = none) (h : character c cs = (d, rest)) :
    ∃ slice, LongestSlice slice (c :: cs) ∧ Denotes slice d ∧ c :: cs = slice ++ rest := by
  rw [mnemonic?_eq_none_iff] at hnone
  have hsingle : ∀ d, ¬ Spelled [c] d := fun d hd => hnone _ d hd ⟨cs, rfl⟩
  rw [character.eq_def] at h
  split at h
  · next hbackslash =>
    subst hbackslash
    cases cs with
    | nil =>
      -- A backslash at the end of the text
      cases h
      refine ⟨['\\'], ⟨.single _, List.prefix_rfl, ?_⟩, .single (by decide) hsingle, rfl⟩
      exact fun other _ hbegins => hbegins.length_le
    | cons escaped cs =>
      cases h
      refine ⟨['\\', escaped], ⟨.escape escaped, ⟨_, rfl⟩, ?_⟩, .escape escaped, rfl⟩
      intro other hother hbegins
      cases hother with
      | mnemonic hspelled => exact absurd hbegins (hnone _ _ hspelled)
      | escape => exact Nat.le_refl 2
      | single => exact Nat.le_succ 1
  · next hbackslash =>
    -- Neither a mnemonic nor an escape, so nothing longer than one character
    have hlongest : LongestSlice [c] (c :: cs) := by
      refine ⟨.single c, ⟨cs, rfl⟩, ?_⟩
      intro other hother hbegins
      cases hother with
      | mnemonic hspelled => exact absurd hbegins (hnone _ _ hspelled)
      | escape escaped =>
        obtain ⟨rest', htext⟩ := hbegins
        exact absurd (List.cons.inj htext).1.symm hbackslash
      | single => exact Nat.le_refl 1
    split at h
    · next hspace =>
      subst hspace
      cases h
      exact ⟨[' '], hlongest, .space, rfl⟩
    · next hspace =>
      cases h
      exact ⟨[c], hlongest, .single hspace hsingle, rfl⟩

/-- The first directive of a text is that of its longest slice. -/
theorem Takes.exists_longest (h : Takes text d rest) :
    ∃ slice, LongestSlice slice text ∧ Denotes slice d ∧ text = slice ++ rest := by
  obtain ⟨c, cs, rfl, hfirst⟩ := h
  rw [first] at hfirst
  -- Mnemonics come first; without one the character decides
  cases hmnemonic : mnemonic? (c :: cs) with
  | none =>
    rw [hmnemonic, Option.getD_none] at hfirst
    exact exists_longest_of_character hmnemonic hfirst
  | some found =>
    rw [hmnemonic, Option.getD_some] at hfirst
    subst hfirst
    obtain ⟨spelling, hspelled, htext, hle⟩ := exists_longest_of_mnemonic? hmnemonic
    exact ⟨spelling, longestSlice_of_spelled hspelled ⟨rest, htext.symm⟩ hle, .mnemonic hspelled,
      htext⟩

/-! ## All slices of a text -/

/-- Every text is cut into longest slices, and they stand for its directives. -/
theorem exists_slices (text : List Char) :
    ∃ slices, Slices text slices ∧ List.Forall₂ Denotes slices (directives text) := by
  -- One slice for each step of `directives`
  induction text using directives.induct with
  | case1 =>
    rw [directives]
    exact ⟨[], .nil, .nil⟩
  | case2 c rest ih =>
    have htakes : Takes (c :: rest) (first c rest).1 (first c rest).2 := ⟨c, rest, rfl, rfl⟩
    -- The first slice is the one that the first directive was read from
    obtain ⟨slice, hlongest, hdenotes, htext⟩ := htakes.exists_longest
    obtain ⟨slices, hslices, hall⟩ := ih
    rw [directives]
    exact ⟨slice :: slices, .cons htext hlongest hslices, .cons hdenotes hall⟩

/-- Slices stand for one list of directives at most. -/
theorem eq_of_forall₂_denotes {ds es : List Directive} (hds : List.Forall₂ Denotes slices ds)
    (hes : List.Forall₂ Denotes slices es) : ds = es := by
  induction hds generalizing es with
  | nil =>
    cases hes
    rfl
  | cons hd _ ih =>
    cases hes with
    | cons he hes => rw [hd.unique he, ih hes]

/-- A text is cut into longest slices in exactly one way. The slices are not empty, they make up
    the whole text, and the directives of its pattern are what they stand for, in order. -/
theorem compile_longest_slices (text : List Char) :
    ∃ slices, (∀ other, Slices text other ↔ other = slices) ∧ slices.flatten = text ∧
      (∀ slice ∈ slices, slice ≠ []) ∧
      ∀ ds, List.Forall₂ Denotes slices ds ↔ ds = (compile text).directives := by
  obtain ⟨slices, hslices, hdenotes⟩ := exists_slices text
  refine ⟨slices, fun other => ⟨fun hother => hother.unique hslices, ?_⟩, hslices.flatten_eq,
    hslices.ne_nil_of_mem, fun ds => ⟨fun hds => eq_of_forall₂_denotes hds hdenotes, ?_⟩⟩
  · rintro rfl
    exact hslices
  · rintro rfl
    exact hdenotes

end TimePattern.Mnemonic
