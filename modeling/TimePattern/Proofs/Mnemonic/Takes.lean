import TimePattern.Mnemonic

/-!
# The first directive of a text

`Takes text d rest` says that the mnemonic notation reads `d` at the front of a text and goes on
with `rest`. A mnemonic is read wherever it stands, unless what follows makes it a longer one.

## Key results

- `directives_eq_cons_iff`: the directives of a text one at a time
- `takes_spell_iff`: a directive is read from its own notation unless the text behind it makes that
  a longer mnemonic
- `Takes.spelled_or_literal`: what is read stands there in the notation, or is a literal
-/

namespace TimePattern

/-- The notation has a spelling for the directive, and not just its name in braces. -/
def Directive.hasMnemonic : Directive → Bool
  | year | day | dayOfYear | zoneName | custom _ => false
  | _ => true

namespace Mnemonic

/-- The first directive of the text is `d`, and `rest` stands behind it. -/
def Takes (text : List Char) (d : Directive) (rest : List Char) : Prop :=
  ∃ c cs, text = c :: cs ∧ first c cs = (d, rest)

/-- A text has one first directive. -/
theorem Takes.unique {text rest rest' : List Char} {d d' : Directive} (h : Takes text d rest)
    (h' : Takes text d' rest') : d = d' ∧ rest = rest' := by
  obtain ⟨c, cs, rfl, hfirst⟩ := h
  obtain ⟨c', cs', htext, hfirst'⟩ := h'
  cases htext
  rw [hfirst] at hfirst'
  exact Prod.mk.inj hfirst'

/-- A text that is not empty has a first directive. -/
theorem exists_takes {text : List Char} (h : text ≠ []) : ∃ d rest, Takes text d rest := by
  obtain ⟨c, cs, rfl⟩ := List.exists_cons_of_ne_nil h
  -- Whatever the first character is, something is read
  exact ⟨(first c cs).1, (first c cs).2, c, cs, rfl, rfl⟩

/-- The directives of a text are the first one and those of the rest. -/
theorem Takes.directives {text rest : List Char} {d : Directive} (h : Takes text d rest) :
    directives text = d :: directives rest := by
  obtain ⟨c, cs, rfl, hfirst⟩ := h
  rw [Mnemonic.directives, hfirst]

/-- The directives of a text one at a time. -/
theorem directives_eq_cons_iff {text : List Char} {d : Directive} {ds : List Directive} :
    directives text = d :: ds ↔ ∃ rest, Takes text d rest ∧ directives rest = ds := by
  constructor
  · intro h
    -- The empty text has no directives
    have hne : text ≠ [] := by
      intro hnil
      rw [hnil, directives] at h
      cases h
    obtain ⟨d', rest, htakes⟩ := exists_takes hne
    rw [htakes.directives, List.cons.injEq] at h
    obtain ⟨rfl, hrest⟩ := h
    exact ⟨rest, htakes, hrest⟩
  · intro h
    obtain ⟨rest, htakes, hrest⟩ := h
    rw [htakes.directives, hrest]

/-! ## Mnemonics -/

/-- A spelling that does not stand there is refused. -/
theorem isPrefixOf?_eq_none {spelling text : List Char} (h : ¬ spelling <+: text) :
    spelling.isPrefixOf? text = none := by
  cases hrest : spelling.isPrefixOf? text with
  | none => rfl
  | some rest => exact absurd ⟨rest, (eq_append_of_isPrefixOf? hrest).symm⟩ h

/-- Directives are written with the mnemonics that stand for them. -/
theorem spell_of_mem_table : ∀ entry ∈ table, spell entry.2 = entry.1 := by
  decide

theorem hasMnemonic_of_mem_table : ∀ entry ∈ table, entry.2.hasMnemonic = true := by
  decide

theorem isAlpha_head_of_mem_table : ∀ entry ∈ table, entry.1.head?.any Char.isAlpha = true := by
  decide

/-- A mnemonic that is read stands at the front of the text. -/
theorem eq_spell_append_of_mnemonic? {text rest : List Char} {d : Directive}
    (h : mnemonic? text = some (d, rest)) :
    text = spell d ++ rest ∧ d.hasMnemonic = true := by
  obtain ⟨entry, hmem, hentry⟩ := List.exists_of_findSome?_eq_some h
  obtain ⟨rest', hprefix, heq⟩ := Option.map_eq_some_iff.1 hentry
  cases heq
  -- What is read is an entry of the table, which the notation spells in the same way
  refine ⟨?_, hasMnemonic_of_mem_table entry hmem⟩
  rw [spell_of_mem_table entry hmem]
  exact eq_append_of_isPrefixOf? hprefix

/-- Every mnemonic begins with a letter, so none begins where another character stands. -/
theorem mnemonic?_eq_none {c : Char} (hc : c.isAlpha = false) (rest : List Char) :
    mnemonic? (c :: rest) = none := by
  rw [mnemonic?, List.findSome?_eq_none_iff]
  intro entry hmem
  have hletter := isAlpha_head_of_mem_table entry hmem
  rw [Option.map_eq_none_iff]
  refine isPrefixOf?_eq_none fun hprefix => ?_
  obtain ⟨rest', htext⟩ := hprefix
  have hne := ne_nil_of_mem_table hmem
  -- The first letter of the entry would have to be the character
  obtain ⟨c', cs, hentry⟩ := List.exists_cons_of_ne_nil hne
  rw [hentry] at htext hletter
  obtain ⟨rfl, -⟩ := List.cons.inj htext
  simp [hc] at hletter

/-! ## What is read -/

/-- A mnemonic comes before all else. -/
theorem takes_of_mnemonic? {text rest : List Char} {d : Directive}
    (h : mnemonic? text = some (d, rest)) : Takes text d rest := by
  cases text with
  | nil => cases h
  | cons c cs => exact ⟨c, cs, rfl, by rw [first, h, Option.getD_some]⟩

/-- Where there is no letter, the character counts by itself. -/
theorem takes_of_character {c : Char} {cs rest : List Char} {d : Directive}
    (hc : c.isAlpha = false) (h : character c cs = (d, rest)) : Takes (c :: cs) d rest :=
  ⟨c, cs, rfl, by rw [first, mnemonic?_eq_none hc, Option.getD_none, h]⟩

/-- What is read is a mnemonic that stands there, a space, or a literal. -/
theorem Takes.spelled_or_literal {text rest : List Char} {d : Directive} (h : Takes text d rest) :
    (text = spell d ++ rest ∧ d.hasMnemonic = true) ∨ ∃ c, d = .literal c := by
  obtain ⟨c, cs, rfl, hfirst⟩ := h
  rw [first] at hfirst
  cases hmnemonic : mnemonic? (c :: cs) with
  | some found =>
    rw [hmnemonic, Option.getD_some] at hfirst
    subst hfirst
    exact .inl (eq_spell_append_of_mnemonic? hmnemonic)
  | none =>
    -- No mnemonic stands here: a backslash, a space and other characters are left
    rw [hmnemonic, Option.getD_none, character.eq_def] at hfirst
    split at hfirst
    · split at hfirst
      · cases hfirst
        exact .inr ⟨c, rfl⟩
      · next escaped cs =>
        cases hfirst
        exact .inr ⟨escaped, rfl⟩
    · split at hfirst
      · next hspace =>
        cases hfirst
        subst hspace
        exact .inl ⟨rfl, rfl⟩
      · cases hfirst
        exact .inr ⟨c, rfl⟩

/-- What is read has a mnemonic, so that it can be written in the notation. -/
theorem Takes.hasMnemonic {text rest : List Char} {d : Directive} (h : Takes text d rest) :
    d.hasMnemonic = true := by
  obtain ⟨-, hd⟩ | ⟨c, rfl⟩ := h.spelled_or_literal
  · exact hd
  · rfl

/-! ## Reading what is written -/

/-- The text behind the directive's notation does not make it a longer mnemonic: `YY` is not
    followed by another `YY`, nor `M` by another `M` or by `on`. -/
def LeftAlone (d : Directive) (tail : List Char) : Prop :=
  match d with
  | .year2 => ¬ ['Y', 'Y'] <+: tail
  | .month => ¬ ['M'] <+: tail ∧ ¬ ['o', 'n'] <+: tail
  | _ => True

/-- `YY` is read unless `YYYY` is. -/
theorem takes_year2_iff {tail : List Char} :
    Takes (spell .year2 ++ tail) .year2 tail ↔ LeftAlone .year2 tail := by
  constructor
  · -- `YYYY` is tried before `YY`
    intro htakes hprefix
    obtain ⟨rest, rfl⟩ := hprefix
    have hlonger : Takes ('Y' :: 'Y' :: 'Y' :: 'Y' :: rest) .year4 rest := ⟨_, _, rfl, rfl⟩
    cases (htakes.unique hlonger).1
  · intro h
    -- `YYYY` is refused, and then it is the turn of `YY`
    have hnone : List.isPrefixOf? ['Y', 'Y', 'Y', 'Y'] ('Y' :: 'Y' :: tail) = none :=
      isPrefixOf?_eq_none (mt (List.prefix_append_right_inj ['Y', 'Y']).1 h)
    apply takes_of_mnemonic?
    show mnemonic? ('Y' :: 'Y' :: tail) = some (.year2, tail)
    rw [mnemonic?, table, List.findSome?_cons]
    simp only [hnone]
    rfl

/-- `M` is read unless `MM` or `Mon` is. -/
theorem takes_month_iff {tail : List Char} :
    Takes (spell .month ++ tail) .month tail ↔ LeftAlone .month tail := by
  constructor
  · -- `MM` and `Mon` are tried before `M`
    intro htakes
    constructor
    · intro hprefix
      obtain ⟨rest, rfl⟩ := hprefix
      have hlonger : Takes ('M' :: 'M' :: rest) .month2 rest := ⟨_, _, rfl, rfl⟩
      cases (htakes.unique hlonger).1
    · intro hprefix
      obtain ⟨rest, rfl⟩ := hprefix
      have hlonger : Takes ('M' :: 'o' :: 'n' :: rest) .monthShort rest := ⟨_, _, rfl, rfl⟩
      cases (htakes.unique hlonger).1
  · intro halone
    obtain ⟨hM, hon⟩ := halone
    -- Both longer mnemonics are refused
    have hpadded : List.isPrefixOf? ['M', 'M'] ('M' :: tail) = none :=
      isPrefixOf?_eq_none (mt (List.prefix_append_right_inj ['M']).1 hM)
    have hshort : List.isPrefixOf? ['M', 'o', 'n'] ('M' :: tail) = none :=
      isPrefixOf?_eq_none (mt (List.prefix_append_right_inj ['M']).1 hon)
    apply takes_of_mnemonic?
    show mnemonic? ('M' :: tail) = some (.month, tail)
    simp only [mnemonic?, table, List.findSome?_cons, hpadded, hshort]
    rfl

/-- A literal is read from its notation wherever it stands. -/
theorem takes_literal (c : Char) (tail : List Char) :
    Takes (spell (.literal c) ++ tail) (.literal c) tail := by
  rw [spell]
  split
  · -- Letters, backslashes and spaces are written with an escape
    exact takes_of_character rfl rfl
  · next hplain =>
    rw [not_or, not_or] at hplain
    obtain ⟨hletter, hbackslash, hspace⟩ := hplain
    refine takes_of_character (Bool.eq_false_iff.2 hletter) ?_
    rw [character.eq_def, if_neg hbackslash, if_neg hspace]
    rfl

/-- A directive is read from its own notation, unless the text behind it makes that a longer
    mnemonic. -/
theorem takes_spell_iff {d : Directive} (hd : d.hasMnemonic = true) (tail : List Char) :
    Takes (spell d ++ tail) d tail ↔ LeftAlone d tail := by
  cases d with
  | year2 => exact takes_year2_iff
  | month => exact takes_month_iff
  | literal c => exact iff_of_true (takes_literal c tail) trivial
  | year | day | dayOfYear | zoneName | custom => cases hd
  -- No longer mnemonic that is tried earlier begins like one of these
  | _ => exact iff_of_true ⟨_, _, rfl, rfl⟩ trivial

end Mnemonic

end TimePattern
