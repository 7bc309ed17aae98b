import TimePattern.Read

/-!
# What a directive finds

`Directive.Finds` says what a built-in directive finds at the front of a text, apart from what
was read before it.

## Key results

- `finds_iff_of_field`: a built-in directive finds what its field reader takes
- `Finds.read` / `exists_finds_of_read`: it reads what it finds, and nothing else, into the stamp
- `read_of_field_none`: where its field reader finds nothing, it does not match
- `readFrom_cons_eq_ok_iff`: the directives behind it go on from there
-/

namespace TimePattern

/-- A rule matches if its field is read and something can be made of it. -/
theorem expecting_eq_ok_iff {α : Type} {what : String} {field : Reader α}
    {finding : α → Except Cause Update} {text rest : List Char} {u : Update} :
    expecting what field finding text = .ok (u, rest) ↔
      ∃ a, field text = some (a, rest) ∧ finding a = .ok u := by
  unfold expecting
  constructor
  · intro h
    split at h
    · cases h
    · -- The field was read, so it depends on what is made of it
      next a rest' hfield =>
      cases hfinding : finding a with
      | error e => rw [hfinding] at h; cases h
      | ok u' =>
        rw [hfinding] at h
        simp only [Except.map, Except.ok.injEq, Prod.mk.injEq] at h
        obtain ⟨rfl, rfl⟩ := h
        exact ⟨a, hfield, hfinding⟩
  · intro h
    obtain ⟨a, hfield, hfinding⟩ := h
    rw [hfield]
    simp only [hfinding, Except.map]

/-- Seconds are found as the date and the time that they have. -/
theorem Update.ofEpochSeconds_eq_ok_iff {n : Nat} {u : Update} :
    ofEpochSeconds n = .ok u ↔
      ∃ date time, civilOfEpochSeconds? n = some (date, time) ∧ u = .dateAndTime date time := by
  unfold ofEpochSeconds
  constructor
  · intro h
    split at h
    · next date time hcivil =>
      cases h
      exact ⟨date, time, hcivil, rfl⟩
    · cases h
  · intro h
    obtain ⟨date, time, hcivil, rfl⟩ := h
    rw [hcivil]

namespace Directive

/-- The built-in directive finds `u` at the front of the text and leaves `rest` behind it. -/
def Finds (d : Directive) (text : List Char) (u : Update) (rest : List Char) : Prop :=
  ∃ scan, d.scan? = some scan ∧ scan text = .ok (u, rest)

/-- A directive finds what its field reader takes. -/
theorem finds_of_field {d : Directive} {α : Type} {what : String} {field : Reader α}
    {finding : α → Except Cause Update} (hscan : d.scan? = some (expecting what field finding))
    {text rest : List Char} {a : α} {u : Update} (hfield : field text = some (a, rest))
    (hfinding : finding a = .ok u) : d.Finds text u rest :=
  ⟨_, hscan, expecting_eq_ok_iff.2 ⟨a, hfield, hfinding⟩⟩

/-- What a directive finds was made of what its field reader took. -/
theorem exists_of_finds {d : Directive} {α : Type} {what : String} {field : Reader α}
    {finding : α → Except Cause Update} (hscan : d.scan? = some (expecting what field finding))
    {text rest : List Char} {u : Update} (h : d.Finds text u rest) :
    ∃ a, field text = some (a, rest) ∧ finding a = .ok u := by
  obtain ⟨scan, hscan', htext⟩ := h
  -- A directive has one rule
  rw [hscan, Option.some.injEq] at hscan'
  subst hscan'
  exact expecting_eq_ok_iff.1 htext

/-- A directive finds something just if its field reader takes something of which it can be made. -/
theorem finds_iff_of_field {d : Directive} {α : Type} {what : String} {field : Reader α}
    {finding : α → Except Cause Update} (hscan : d.scan? = some (expecting what field finding))
    {text rest : List Char} {u : Update} :
    d.Finds text u rest ↔ ∃ a, field text = some (a, rest) ∧ finding a = .ok u := by
  constructor
  · exact exists_of_finds hscan
  · intro h
    obtain ⟨a, hfield, hfinding⟩ := h
    exact finds_of_field hscan hfield hfinding

/-- A directive of the caller's own. -/
def isCustom : Directive → Bool
  | custom _ => true
  | _ => false

/-- A built-in directive reads by its own rule, whatever was read before. -/
theorem read_eq_of_not_custom {d : Directive} (hd : d.isCustom = false) (soFar : Stamp)
    (text : List Char) :
    d.read soFar text =
      match d.scan? with
      | none => .error (.noRule ⟨d⟩)
      | some scan =>
        match scan text with
        | .ok (update, rest) => .ok ⟨update.apply soFar, rest⟩
        | .error cause => .error (.mismatch ⟨d, soFar, cause, text⟩) := by
  cases d
  case custom => cases hd
  all_goals rfl

/-- A directive with a rule of its own is built in. -/
theorem not_custom_of_scan? {d : Directive} {scan : List Char → Except Cause (Update × List Char)}
    (h : d.scan? = some scan) : d.isCustom = false := by
  cases d
  case custom => cases h
  all_goals rfl

/-- Where its field reader finds nothing, a directive does not match. -/
theorem read_of_field_none {d : Directive} {α : Type} {what : String} {field : Reader α}
    {finding : α → Except Cause Update} (hscan : d.scan? = some (expecting what field finding))
    {text : List Char} (hfield : field text = none) (soFar : Stamp) :
    d.read soFar text = .error (.mismatch ⟨d, soFar, .expected what, text⟩) := by
  rw [read_eq_of_not_custom (not_custom_of_scan? hscan), hscan]
  simp only [expecting, hfield]

/-- A built-in directive reads what it finds into the stamp. -/
theorem Finds.read {d : Directive} {text rest : List Char} {u : Update} (h : d.Finds text u rest)
    (soFar : Stamp) : d.read soFar text = .ok ⟨u.apply soFar, rest⟩ := by
  obtain ⟨scan, hscan, htext⟩ := h
  rw [read_eq_of_not_custom (not_custom_of_scan? hscan), hscan]
  simp only [htext]

/-- What a built-in directive has read, it has found. -/
theorem exists_finds_of_read {d : Directive} (hd : d.isCustom = false) {soFar : Stamp}
    {text : List Char} {r : Reading} (h : d.read soFar text = .ok r) :
    ∃ u, d.Finds text u r.rest ∧ r.stamp = u.apply soFar := by
  rw [read_eq_of_not_custom hd] at h
  split at h
  · cases h
  · -- Something was read, so there is a rule and it has matched
    next scan hscan =>
    split at h
    · next u rest htext =>
      simp only [Except.ok.injEq] at h
      subst h
      exact ⟨u, ⟨scan, hscan, htext⟩, rfl⟩
    · cases h

end Directive

/-- A pattern of one directive reads what this reads into the default stamp. -/
theorem Pattern.read_singleton (d : Directive) (text : List Char) :
    (Pattern.mk [d]).read text = d.read default text := by
  simp only [Pattern.read, readFrom]
  cases d.read default text <;> rfl

/-- The directives behind a built-in one go on with what it found and the text that it left. -/
theorem readFrom_cons_eq_ok_iff {d : Directive} (hd : d.isCustom = false) {soFar : Stamp}
    {text : List Char} {ds : List Directive} {r : Reading} :
    readFrom soFar text (d :: ds) = .ok r ↔
      ∃ u rest, d.Finds text u rest ∧ readFrom (u.apply soFar) rest ds = .ok r := by
  rw [readFrom]
  constructor
  · intro h
    split at h
    · -- A directive that was read has found something
      next found hread =>
      obtain ⟨u, hfinds, hstamp⟩ := Directive.exists_finds_of_read hd hread
      exact ⟨u, found.rest, hfinds, hstamp ▸ h⟩
    · cases h
  · intro h
    obtain ⟨u, rest, hfinds, h⟩ := h
    rw [hfinds.read]
    exact h

end TimePattern
