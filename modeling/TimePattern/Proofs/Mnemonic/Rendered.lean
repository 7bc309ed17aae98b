import Mathlib.Data.List.Chain
import TimePattern.Proofs.Mnemonic.Takes

/-!
# Patterns that are read back from their notation

A pattern in mnemonic notation is read back directive by directive. Two things can go wrong: a
directive without a mnemonic, whose name in braces is read as literals, and two neighbours that
together spell a longer mnemonic. The pattern of a text has neither.

## Key results

- `directives_flatMap_spell_iff`: the directives that are read back from their notation
- `readBack_directives`: those of a text are
- `compile_render_same_iff`: the same for patterns, up to the identity of custom directives
- `compile_render_compile`: the pattern of a text is always read back
-/

namespace TimePattern

/-- The two directives, written next to each other, begin with a longer mnemonic than the
    first. -/
def Directive.joins : Directive → Directive → Bool
  | year2, year2 | year2, year4 => true
  | month, month | month, month2 | month, monthShort => true
  | _, _ => false

/-- Two directives are the same as soon as they compare as the same, if they are not custom ones. -/
theorem Directive.eq_of_same {d e : Directive} (hd : d.hasMnemonic = true)
    (h : d.same e = true) : d = e := by
  cases d with
  | custom => cases hd
  | literal c =>
    cases e with
    | literal c' => rw [eq_of_beq (show (c == c') = true from h)]
    | _ => cases h
  | _ => cases e <;> first | rfl | cases h

namespace Mnemonic

/-! ## Neighbours -/

/-- A literal is written with an escape or as a character other than a letter, so a mnemonic
    never goes on with it. -/
theorem not_prefix_spell_literal {b : Char} (hb : b.isAlpha = true) (bs : List Char) (c : Char)
    (tail : List Char) : ¬ b :: bs <+: spell (.literal c) ++ tail := by
  intro hprefix
  obtain ⟨rest, htext⟩ := hprefix
  rw [spell] at htext
  split at htext
  · -- The notation begins with a backslash
    obtain ⟨rfl, -⟩ := List.cons.inj htext
    cases hb
  · next hplain =>
    -- A character that is written as it is, and then no letter
    obtain ⟨rfl, -⟩ := List.cons.inj htext
    exact hplain (.inl hb)

/-- `YY` joins with what begins with another `YY`. -/
theorem leftAlone_year2_spell_iff (e : Directive) (tail : List Char) :
    LeftAlone .year2 (spell e ++ tail) ↔ Directive.year2.joins e = false := by
  cases e with
  | literal c => exact iff_of_true (not_prefix_spell_literal rfl _ c tail) rfl
  -- The first character or two of each spelling decide
  | _ => simp [LeftAlone, spell, braced, Directive.joins]

/-- `M` joins with what begins with another `M` or with `on`. -/
theorem leftAlone_month_spell_iff (e : Directive) (tail : List Char) :
    LeftAlone .month (spell e ++ tail) ↔ Directive.month.joins e = false := by
  cases e with
  | literal c =>
    exact iff_of_true
      ⟨not_prefix_spell_literal rfl _ c tail, not_prefix_spell_literal rfl _ c tail⟩ rfl
  | _ => simp [LeftAlone, spell, braced, Directive.joins]

/-- A directive is left alone by its neighbour's notation if the two do not join. -/
theorem leftAlone_spell_iff (d e : Directive) (tail : List Char) :
    LeftAlone d (spell e ++ tail) ↔ d.joins e = false := by
  cases d with
  | year2 => exact leftAlone_year2_spell_iff e tail
  | month => exact leftAlone_month_spell_iff e tail
  | _ => exact iff_of_true trivial rfl

theorem leftAlone_nil (d : Directive) : LeftAlone d [] := by
  cases d with
  | year2 => simp [LeftAlone]
  | month => simp [LeftAlone]
  | _ => trivial

/-- Of several directives behind one, only the first counts. -/
theorem leftAlone_flatMap_spell_iff (d : Directive) (ds : List Directive) :
    LeftAlone d (ds.flatMap spell) ↔ ∀ e ∈ ds.head?, d.joins e = false := by
  cases ds with
  | nil => exact iff_of_true (leftAlone_nil d) (fun e he => nomatch he)
  | cons e ds =>
    rw [List.flatMap_cons, leftAlone_spell_iff]
    simp

/-! ## Lists of directives -/

/-- Every directive has a mnemonic, and no two neighbours join. -/
def ReadBack (ds : List Directive) : Prop :=
  (∀ d ∈ ds, d.hasMnemonic = true) ∧ ds.IsChain fun d e => d.joins e = false

instance (ds : List Directive) : Decidable (ReadBack ds) := inferInstanceAs (Decidable (_ ∧ _))

theorem readBack_nil : ReadBack [] :=
  ⟨fun _ hd => (List.not_mem_nil hd).elim, .nil⟩

/-- One more directive in front must have a mnemonic and not join its neighbour. -/
theorem readBack_cons_iff (d : Directive) (ds : List Directive) :
    ReadBack (d :: ds) ↔
      d.hasMnemonic = true ∧ (∀ e ∈ ds.head?, d.joins e = false) ∧ ReadBack ds := by
  rw [ReadBack, ReadBack, List.forall_mem_cons, List.isChain_cons]
  tauto

/-- What is left behind a directive that is read from its own notation. -/
theorem Takes.rest_eq {d : Directive} {tail rest : List Char} (h : Takes (spell d ++ tail) d rest) :
    rest = tail := by
  obtain ⟨htext, -⟩ | ⟨c, rfl⟩ := h.spelled_or_literal
  · exact (List.append_cancel_left htext).symm
  · exact (h.unique (takes_literal c tail)).2

/-- The directive lists that are read back from their notation. -/
theorem directives_flatMap_spell_iff (ds : List Directive) :
    directives (ds.flatMap spell) = ds ↔ ReadBack ds := by
  induction ds with
  | nil =>
    have hnil : directives [] = [] := by rw [directives]
    exact iff_of_true hnil readBack_nil
  | cons d ds ih =>
    rw [directives_eq_cons_iff, readBack_cons_iff, List.flatMap_cons]
    constructor
    · -- The first directive may only have been read if its neighbour left it alone
      intro h
      obtain ⟨rest, htakes, hrest⟩ := h
      have hd := htakes.hasMnemonic
      obtain rfl := htakes.rest_eq
      have halone := (takes_spell_iff hd _).1 htakes
      exact ⟨hd, (leftAlone_flatMap_spell_iff d ds).1 halone, ih.1 hrest⟩
    · intro h
      obtain ⟨hd, hhead, hds⟩ := h
      have halone := (leftAlone_flatMap_spell_iff d ds).2 hhead
      exact ⟨ds.flatMap spell, (takes_spell_iff hd _).2 halone, ih.2 hds⟩

example : ReadBack [.year4, .year2, .month2, .month, .literal 'M'] := by decide

example : ¬ ReadBack [.year2, .year4] := by decide

/-! ## The directives of a text -/

/-- Two directives that are read one after the other do not join: the longer mnemonic would have
    been read in place of the first. -/
theorem Takes.joins_eq_false {text rest rest' : List Char} {d e : Directive}
    (h : Takes text d rest) (h' : Takes rest e rest') : d.joins e = false := by
  obtain ⟨rfl, hd⟩ | ⟨c, rfl⟩ := h.spelled_or_literal
  · obtain ⟨rfl, -⟩ | ⟨c, rfl⟩ := h'.spelled_or_literal
    · have halone := (takes_spell_iff hd _).1 h
      exact (leftAlone_spell_iff d e rest').1 halone
    -- Literals join with nothing, on neither side
    · cases d <;> rfl
  · rfl

/-- The directives of any text are read back from their notation. -/
theorem readBack_directives (text : List Char) : ReadBack (directives text) := by
  induction text using directives.induct with
  | case1 =>
    rw [directives]
    exact readBack_nil
  | case2 c rest ih =>
    have htakes : Takes (c :: rest) (first c rest).1 (first c rest).2 := ⟨c, rest, rfl, rfl⟩
    rw [directives, readBack_cons_iff]
    refine ⟨htakes.hasMnemonic, ?_, ih⟩
    -- A neighbour was read where the first directive ended
    intro e he
    obtain ⟨ds, hcons⟩ := List.head?_eq_some_iff.1 he
    obtain ⟨rest', htakes', -⟩ := directives_eq_cons_iff.1 hcons
    exact htakes.joins_eq_false htakes'

/-! ## Patterns -/

/-- The directives of a text have mnemonics. -/
theorem hasMnemonic_of_mem_directives {text : List Char} {d : Directive}
    (h : d ∈ directives text) : d.hasMnemonic = true :=
  (readBack_directives text).1 d h

/-- Lists of directives that compare as the same are equal if the directives of the one have
    mnemonics. -/
theorem eq_of_directives_beq {ds es : List Directive} (hds : ∀ d ∈ ds, d.hasMnemonic = true)
    (h : (ds == es) = true) : ds = es := by
  induction ds generalizing es with
  | nil =>
    cases es with
    | nil => rfl
    | cons e es => cases h
  | cons d ds ih =>
    cases es with
    | nil => cases h
    | cons e es =>
      rw [List.forall_mem_cons] at hds
      rw [List.cons_beq_cons, Bool.and_eq_true] at h
      -- One of the two lists has no custom directives, so neither has the other
      rw [Directive.eq_of_same hds.1 h.1, ih hds.2 h.2]

/-- A pattern is read back from its notation, up to the identity of custom directives, if each
    directive has a mnemonic and no two neighbours join. -/
theorem compile_render_same_iff (p : Pattern) :
    (compile (render p) == p) = true ↔
      (∀ d ∈ p.directives, d.hasMnemonic = true) ∧
        p.directives.IsChain fun d e => d.joins e = false := by
  refine Iff.trans ?_ (directives_flatMap_spell_iff p.directives)
  constructor
  · -- A text denotes no custom directives, so the comparison cannot confuse two of them
    intro h
    exact eq_of_directives_beq (fun d hd => hasMnemonic_of_mem_directives hd) h
  · intro h
    show (directives (p.directives.flatMap spell) == p.directives) = true
    rw [h]
    exact BEq.rfl

/-- The notation of the pattern of a text denotes the same pattern. -/
theorem compile_render_compile (text : List Char) :
    compile (render (compile text)) = compile text := by
  have hback := (directives_flatMap_spell_iff (directives text)).2 (readBack_directives text)
  rw [compile, compile, render, hback]

end Mnemonic

end TimePattern
