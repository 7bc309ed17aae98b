import TimePattern.Proofs.Reading.Finds

/-!
# Where a reading fails

A reading that fails does so at one directive: those before it are read, and those behind it play
no part. A directive that does not match reports the stamp and the text as it was given them,
whatever it has tried. A directive without a rule is a fault of the pattern, which the check finds
in advance, but it shows only when the directives before it are read.

## Key results

- `Directive.read_eq_error_cases`: what one directive reports
- `readFrom_eq_error_iff`: a failure is that of the first directive that fails
- `Pattern.read_mismatch_iff`: what a mismatch says of the pattern and the text
- `Pattern.read_noRule_iff`: when a pattern that cannot be read is found out
-/

namespace TimePattern

/-! ## One directive -/

namespace Directive

variable {d : Directive} {soFar : Stamp} {text : List Char}

/-- A built-in directive has no rule just if it is not readable. -/
theorem scan?_eq_none_iff (hd : d.isCustom = false) : d.scan? = none ↔ d.isReadable = false := by
  cases d with
  | custom own => cases hd
  | _ => simp [scan?, isReadable]

/-- A directive of the caller's own brings its own reader. -/
theorem isReadable_of_isCustom (hd : d.isCustom = true) : d.isReadable = true := by
  cases d with
  | custom own => rfl
  | _ => cases hd

/-- What a directive that is not read reports: itself, and the stamp and the text that it was
    given, or that it has no rule. -/
theorem read_eq_error_cases {e : ReadError} (h : d.read soFar text = .error e) :
    (d.isReadable = true ∧ ∃ cause, e = .mismatch ⟨d, soFar, cause, text⟩) ∨
      (d.isReadable = false ∧ e = .noRule ⟨d⟩) := by
  cases hd : d.isCustom with
  | true =>
    -- Whatever the caller's own reader does, the failure shows what it was handed
    refine .inl ⟨isReadable_of_isCustom hd, ?_⟩
    cases d with
    | custom own =>
      rw [Directive.read] at h
      split at h
      · cases h
      · next message _ =>
        cases h
        exact ⟨.custom message, rfl⟩
    | _ => cases hd
  | false =>
    rw [read_eq_of_not_custom hd] at h
    -- A built-in directive has a rule just if it is readable
    cases hscan : d.scan? with
    | none =>
      rw [hscan] at h
      cases h
      exact .inr ⟨(scan?_eq_none_iff hd).1 hscan, rfl⟩
    | some scan =>
      have hreadable : d.isReadable = true := by
        rw [← Bool.not_eq_false, ← scan?_eq_none_iff hd, hscan]
        exact Option.some_ne_none scan
      rw [hscan] at h
      dsimp only at h
      split at h
      · cases h
      · next cause _ =>
        cases h
        exact .inl ⟨hreadable, cause, rfl⟩

/-- A directive that does not match says so of what it was given, whatever it has tried. -/
theorem eq_of_read_eq_mismatch {e : Mismatch} (h : d.read soFar text = .error (.mismatch e)) :
    e.directive = d ∧ e.soFar = soFar ∧ e.rest = text := by
  obtain ⟨-, cause, he⟩ | ⟨-, he⟩ := read_eq_error_cases h
  · cases he
    exact ⟨rfl, rfl, rfl⟩
  · cases he

/-- The directives that are not readable are those that turn out to have no rule, whatever they
    are to read. -/
theorem read_eq_noRule_iff {e : NoRule} :
    d.read soFar text = .error (.noRule e) ↔ d.isReadable = false ∧ e = ⟨d⟩ := by
  constructor
  · intro h
    obtain ⟨-, cause, he⟩ | ⟨hd, he⟩ := read_eq_error_cases h
    · cases he
    · cases he
      exact ⟨hd, rfl⟩
  · rintro ⟨hd, rfl⟩
    cases d with
    | monthShort | dayOfYear | zoneName | space => rfl
    | _ => cases hd

end Directive

/-! ## Directives one after the other -/

section Run

variable {soFar : Stamp} {text : List Char} {ds : List Directive} {e : ReadError}

/-- What is behind a failure plays no part. -/
theorem readFrom_append_of_error (h : readFrom soFar text ds = .error e) (es : List Directive) :
    readFrom soFar text (ds ++ es) = .error e := by
  rw [readFrom_append, h]
  rfl

/-- Directives up to the one that fails, with this one as the last. -/
theorem readFrom_take_succ_of_error {k : Nat} {d : Directive} {r : Reading} (hd : ds[k]? = some d)
    (hbefore : readFrom soFar text (ds.take k) = .ok r) (h : d.read r.stamp r.rest = .error e) :
    readFrom soFar text (ds.take (k + 1)) = .error e := by
  rw [List.take_add_one, hd, readFrom_append, hbefore]
  simp only [Option.toList_some, Except.bind, readFrom, h]

/-- A failure is that of a directive where those before it are read. -/
theorem exists_error_of_readFrom (h : readFrom soFar text ds = .error e) :
    ∃ k d r, ds[k]? = some d ∧ readFrom soFar text (ds.take k) = .ok r ∧
      d.read r.stamp r.rest = .error e := by
  induction ds generalizing soFar text with
  | nil => cases h
  | cons d ds ih =>
    rw [readFrom] at h
    cases hread : d.read soFar text with
    | error e' =>
      rw [hread] at h
      cases h
      exact ⟨0, d, ⟨soFar, text⟩, rfl, rfl, hread⟩
    | ok found =>
      -- The first directive is read, so the failure is one of the others
      rw [hread] at h
      obtain ⟨k, d', r, hd', hbefore, herror⟩ := ih h
      refine ⟨k + 1, d', r, hd', ?_, herror⟩
      rw [List.take_succ_cons, readFrom, hread]
      exact hbefore

/-- Reading fails just if one of the directives fails where those before it have left off. -/
theorem readFrom_eq_error_iff :
    readFrom soFar text ds = .error e ↔
      ∃ k d r, ds[k]? = some d ∧ readFrom soFar text (ds.take k) = .ok r ∧
        d.read r.stamp r.rest = .error e := by
  refine ⟨exists_error_of_readFrom, ?_⟩
  intro h
  obtain ⟨k, d, r, hd, hbefore, herror⟩ := h
  -- Up to the failing directive first, and then with those behind it
  have hfail := readFrom_take_succ_of_error hd hbefore herror
  have hall := readFrom_append_of_error hfail (ds.drop (k + 1))
  rwa [List.take_append_drop] at hall

/-- Directives that are readable do not turn out to have no rule. -/
theorem readFrom_ne_noRule (hds : ∀ d ∈ ds, d.isReadable = true) (missing : NoRule) :
    readFrom soFar text ds ≠ .error (.noRule missing) := by
  intro h
  obtain ⟨k, d, r, hd, -, herror⟩ := readFrom_eq_error_iff.1 h
  have hnot := (Directive.read_eq_noRule_iff.1 herror).1
  -- The directive that fails is one of the readable ones
  rw [hds d (List.mem_of_getElem? hd)] at hnot
  cases hnot

/-- Directives are read up to the first that is not readable, and this one then has no rule. -/
theorem readFrom_eq_bind_find? (soFar : Stamp) (text : List Char) (ds : List Directive) :
    readFrom soFar text ds =
      (readFrom soFar text (ds.takeWhile (·.isReadable))).bind fun r =>
        match ds.find? (!·.isReadable) with
        | some d => .error (.noRule ⟨d⟩)
        | none => .ok r := by
  induction ds generalizing soFar text with
  | nil => rfl
  | cons d ds ih =>
    by_cases hd : d.isReadable = true
    · -- Read the first directive on both sides, or fail with it on both
      rw [List.takeWhile_cons_of_pos hd, List.find?_cons_of_neg (by simp [hd]), readFrom, readFrom]
      cases d.read soFar text with
      | error e => rfl
      | ok r => exact ih r.stamp r.rest
    · -- Nothing is before this directive, and it is the one that has no rule
      rw [Bool.not_eq_true] at hd
      have hread : d.read soFar text = .error (.noRule ⟨d⟩) :=
        Directive.read_eq_noRule_iff.2 ⟨hd, rfl⟩
      rw [List.takeWhile_cons_of_neg (by simp [hd]), List.find?_cons_of_pos (by simp [hd]),
        readFrom, readFrom, hread]
      rfl

end Run

/-! ## Patterns -/

namespace Pattern

/-- The first `k` directives of the pattern. -/
def take (p : Pattern) (k : Nat) : Pattern := ⟨p.directives.take k⟩

/-- The index of the first directive without a reading rule, or the number of directives if all
    can be read. -/
def firstUnreadable (p : Pattern) : Nat := p.directives.findIdx (!·.isReadable)

/-- A mismatch tells a directive of the pattern, what those before it have found, and the text
    that they have left. Nothing that stands behind this directive can change it. -/
theorem read_mismatch_iff (p : Pattern) (text : List Char) (e : Mismatch) :
    p.read text = .error (.mismatch e) ↔
      ∃ k, p.directives[k]? = some e.directive ∧
        (p.take k).read text = .ok ⟨e.soFar, e.rest⟩ ∧
        ∀ q : Pattern, (p.take (k + 1) ++ q).read text = .error (.mismatch e) := by
  constructor
  · intro h
    obtain ⟨k, d, r, hd, hbefore, herror⟩ := readFrom_eq_error_iff.1 h
    obtain ⟨rfl, hsoFar, hrest⟩ := Directive.eq_of_read_eq_mismatch herror
    refine ⟨k, hd, ?_, fun q => ?_⟩
    · rw [hsoFar, hrest]
      exact hbefore
    · have hfail := readFrom_take_succ_of_error hd hbefore herror
      exact readFrom_append_of_error hfail q.directives
  · intro h
    obtain ⟨k, -, -, hall⟩ := h
    -- The pattern itself goes on with its own directives
    have hself := hall ⟨p.directives.drop (k + 1)⟩
    rw [Pattern.read, directives_append, take, List.take_append_drop] at hself
    exact hself

/-- The seconds are read before they turn out to lie outside the time line. They are reported as
    they stand in the text, and the year alone has been found. -/
example : (Pattern.mk [.year4, .unixSecond]).read "202499999999999999Z".toList =
    .error (.mismatch ⟨.unixSecond, ⟨⟨2024, .january, 0⟩, ⟨0, 0, 0, 0⟩, 0⟩,
      .epochOutOfRange 99999999999999, "99999999999999Z".toList⟩) := rfl

/-- The directives before the first without a rule are those in front that are readable. -/
theorem directives_take_firstUnreadable (p : Pattern) :
    (p.take p.firstUnreadable).directives = p.directives.takeWhile (·.isReadable) :=
  List.takeWhile_eq_take_findIdx_not.symm

/-- The directives before the first without a rule are read, and then the check decides. -/
theorem read_eq_bind_check (p : Pattern) (text : List Char) :
    p.read text =
      ((p.take p.firstUnreadable).read text).bind fun r =>
        match p.check with
        | .error e => .error (.noRule e)
        | .ok () => .ok r := by
  rw [Pattern.read, Pattern.read, directives_take_firstUnreadable, readFrom_eq_bind_find?, check]
  -- The check looks for the same directive
  cases p.directives.find? (!·.isReadable) <;> rfl

/-- None of these turns out to have no rule. -/
theorem take_firstUnreadable_ne_noRule (p : Pattern) (text : List Char) (e : NoRule) :
    (p.take p.firstUnreadable).read text ≠ .error (.noRule e) := by
  rw [Pattern.read, directives_take_firstUnreadable]
  exact readFrom_ne_noRule (List.all_eq_true.1 List.all_takeWhile) e

/-- That a pattern cannot be read turns out when the check reports a directive and all those
    before it are read, and the reading then reports the same one. A pattern that passes the check
    is never found out so, and a mismatch before the directive is reported as such. -/
theorem read_noRule_iff (p : Pattern) (text : List Char) :
    (∀ e, p.read text = .error (.noRule e) ↔
      p.check = .error e ∧ ∃ r, (p.take p.firstUnreadable).read text = .ok r) ∧
    (p.check = .ok () → ∀ e, p.read text ≠ .error (.noRule e)) ∧
    ∀ e, p.read text = .error (.mismatch e) ↔
      (p.take p.firstUnreadable).read text = .error (.mismatch e) := by
  rw [read_eq_bind_check]
  -- By what the directives before the first without a rule come to
  cases hbefore : (p.take p.firstUnreadable).read text with
  | ok r =>
    cases hcheck : p.check with
    | ok _ => simp [Except.bind]
    | error missing => simp [Except.bind]
  | error e =>
    cases e with
    | mismatch e => simp [Except.bind]
    | noRule missing => exact absurd hbefore (take_firstUnreadable_ne_noRule p text missing)

/-- A space has no reading rule, which does not matter where the year before it is not read. -/
example : (Pattern.mk [.year4, .space]).read "2024 ".toList = .error (.noRule ⟨.space⟩) ∧
    (Pattern.mk [.year4, .space]).read "24 ".toList =
      .error (.mismatch ⟨.year4, default, .expected "a 4-digit year", "24 ".toList⟩) :=
  ⟨rfl, rfl⟩

end Pattern

end TimePattern
