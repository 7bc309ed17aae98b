import Mathlib.Data.List.Nodup
import Mathlib.Data.Option.Basic
import TimePattern.Toml.Document

/-!
# Distinct keys

No table of a TOML document has two entries under one key, however its entries came together: under
dotted keys, between braces, under one header or under several. Each operation on tables keeps this,
every value that is read has it, and so has the whole document.

## Key results

- `Entries.Distinct.assign` / `Entries.Distinct.reach`: a dotted key, and a header
- `Value.distinct_read`: a value that is read, however deep
- `distinct_parse`: a whole document
-/

namespace TimePattern

namespace Toml

/-- No table within the value has two entries under one key. -/
inductive Value.Distinct : Value → Prop
  | string (text : List Char) : Distinct (.string text)
  | integer (n : Int) : Distinct (.integer n)
  | float (literal : List Char) : Distinct (.float literal)
  | boolean (b : Bool) : Distinct (.boolean b)
  | datetime (d : Datetime) : Distinct (.datetime d)
  | array {items : List Value} (hitems : ∀ v ∈ items, Distinct v) : Distinct (.array items)
  | table {origin : Origin} {entries : List (String × Value)}
      (hkeys : (entries.map Prod.fst).Nodup) (hvalues : ∀ e ∈ entries, Distinct e.2) :
      Distinct (.table origin entries)
  | tables {earlier : List Value} {last : List (String × Value)}
      (hearlier : ∀ v ∈ earlier, Distinct v) (hkeys : (last.map Prod.fst).Nodup)
      (hvalues : ∀ e ∈ last, Distinct e.2) : Distinct (.tables earlier last)

/-- Neither the table with these entries nor a table within it has two entries under one key. -/
structure Entries.Distinct (entries : Entries) : Prop where
  keys : (entries.map Prod.fst).Nodup
  values : ∀ e ∈ entries, e.2.Distinct

namespace Entries

variable {entries entries' : Entries} {key : String} {v : Value}

/-! ## One table -/

theorem distinct_nil : Distinct [] := ⟨List.nodup_nil, List.forall_mem_nil _⟩

/-- A table counts as its entries do, wherever it comes from. -/
theorem distinct_table_iff {origin : Origin} :
    (Value.table origin entries).Distinct ↔ entries.Distinct := by
  constructor
  · intro h
    cases h with
    | table hkeys hvalues => exact ⟨hkeys, hvalues⟩
  · intro h
    exact .table h.keys h.values

/-- An array of tables: the last table is kept apart from the earlier ones. -/
theorem distinct_tables_iff {earlier : List Value} :
    (Value.tables earlier entries).Distinct ↔
      (∀ v ∈ earlier, v.Distinct) ∧ entries.Distinct := by
  constructor
  · intro h
    cases h with
    | tables hearlier hkeys hvalues => exact ⟨hearlier, hkeys, hvalues⟩
  · intro h
    exact .tables h.1 h.2.keys h.2.values

/-- What is found under a key is one of the entries. -/
theorem mem_of_lookup (h : entries.lookup key = some v) : (key, v) ∈ entries := by
  obtain ⟨before, after, rfl, -⟩ := List.lookup_eq_some_iff.1 h
  simp

/-- A value that is found within such a table has no key twice either. -/
theorem Distinct.of_lookup (h : entries.Distinct) (hv : entries.lookup key = some v) :
    v.Distinct :=
  h.values _ (mem_of_lookup hv)

/-- A key under which nothing is found is not one of the keys. -/
theorem not_mem_keys_of_lookup (h : entries.lookup key = none) : key ∉ entries.map Prod.fst := by
  intro hmem
  obtain ⟨e, he, rfl⟩ := List.mem_map.1 hmem
  have hne := List.lookup_eq_none_iff.1 h e he
  simp at hne

/-- Every entry is found under its key. -/
theorem Distinct.lookup_of_mem (h : entries.Distinct) (hmem : (key, v) ∈ entries) :
    entries.lookup key = some v := by
  obtain ⟨before, after, rfl⟩ := List.append_of_mem hmem
  refine List.lookup_eq_some_iff.2 ⟨before, after, rfl, fun e he => ?_⟩
  have hkeys := h.keys
  rw [List.map_append, List.nodup_append] at hkeys
  -- The keys in front of the entry are other ones, so the search passes them by
  have hne := hkeys.2.2 e.1 (List.mem_map_of_mem he) key (by simp)
  exact bne_iff_ne.2 hne.symm

/-- A new key stands behind the others. -/
theorem Distinct.append (h : entries.Distinct) (hkey : entries.lookup key = none)
    (hv : v.Distinct) : Distinct (entries ++ [(key, v)]) := by
  have hnew := not_mem_keys_of_lookup hkey
  refine ⟨?_, ?_⟩
  · rw [List.map_append, List.nodup_append]
    refine ⟨h.keys, List.nodup_singleton _, ?_⟩
    intro k hk k' hlast heq
    rw [List.map_singleton, List.mem_singleton] at hlast
    rw [heq, hlast] at hk
    -- An old entry under the new key would have been found
    exact hnew hk
  · intro e he
    rcases List.mem_append.1 he with he | he
    · exact h.values e he
    · rw [List.mem_singleton.1 he]
      exact hv

/-- After a value is set, there are no entries but the new one and the old ones. -/
theorem mem_set {e : String × Value} (h : e ∈ entries.set key v) :
    e = (key, v) ∨ e ∈ entries := by
  -- The search of `set` stops at the first entry with the key
  induction entries with
  | nil => exact .inl (List.mem_singleton.1 h)
  | cons head rest ih =>
    obtain ⟨k, w⟩ := head
    simp only [set] at h
    split at h
    · next heq =>
      -- The entry is replaced, and the ones behind it stay
      subst heq
      exact (List.mem_cons.1 h).imp_right (List.mem_cons_of_mem _)
    · rcases List.mem_cons.1 h with h | h
      · exact .inr (h ▸ List.mem_cons_self)
      · exact (ih h).imp_right (List.mem_cons_of_mem _)

/-- A key that is there keeps its place. -/
theorem Distinct.set (h : entries.Distinct) (hv : v.Distinct) : (entries.set key v).Distinct := by
  refine ⟨?_, ?_⟩
  · have hkeys := h.keys
    -- Along the list, with nothing known of the values: `set` keeps the keys, or adds one behind
    -- the last
    clear h
    induction entries with
    | nil => exact List.nodup_singleton key
    | cons head rest ih =>
      obtain ⟨k, w⟩ := head
      rw [List.map_cons, List.nodup_cons] at hkeys
      simp only [Entries.set]
      split
      · rw [List.map_cons, List.nodup_cons]
        -- The new value stands under the same key
        exact hkeys
      · next hne =>
        rw [List.map_cons, List.nodup_cons]
        refine ⟨?_, ih hkeys.2⟩
        -- The key of the head could come back only as the key that is set, and it is another one
        intro hmem
        obtain ⟨e, he, hk⟩ := List.mem_map.1 hmem
        rcases mem_set he with rfl | he
        · exact hne hk.symm
        · exact hkeys.1 (List.mem_map.2 ⟨e, he, hk⟩)
  · intro e he
    rcases mem_set he with rfl | he
    · exact hv
    · exact h.values e he

/-- A table within the table changes its entries. -/
theorem Distinct.set_table (h : entries.Distinct) {origin : Origin} {es new : Entries}
    (hlookup : entries.lookup key = some (.table origin es)) (hnew : es.Distinct → new.Distinct) :
    (entries.set key (.table origin new)).Distinct := by
  have hes := distinct_table_iff.1 (h.of_lookup hlookup)
  exact h.set (distinct_table_iff.2 (hnew hes))

/-- The last table of an array of tables changes its entries. -/
theorem Distinct.set_last (h : entries.Distinct) {earlier : List Value} {last new : Entries}
    (hlookup : entries.lookup key = some (.tables earlier last))
    (hnew : last.Distinct → new.Distinct) :
    (entries.set key (.tables earlier new)).Distinct := by
  obtain ⟨hearlier, hlast⟩ := distinct_tables_iff.1 (h.of_lookup hlookup)
  exact h.set (distinct_tables_iff.2 ⟨hearlier, hnew hlast⟩)

/-! ## Paths -/

/-- A value under a dotted key. -/
theorem Distinct.assign {path : List String} (h : entries.Distinct) (hv : v.Distinct)
    (hassign : entries.assign v path = some entries') : entries'.Distinct := by
  -- The tables on the way are changed from the inside out
  induction path generalizing entries entries' with
  | nil => cases hassign
  | cons key path ih =>
    cases path with
    | nil =>
      rw [Entries.assign] at hassign
      split at hassign
      · next hlookup =>
        cases hassign
        -- The last key has to be a new one
        exact h.append hlookup hv
      · cases hassign
    | cons next path =>
      rw [Entries.assign] at hassign
      split at hassign
      · next hlookup =>
        obtain ⟨inner, hinner, rfl⟩ := Option.map_eq_some_iff.1 hassign
        exact h.append hlookup (distinct_table_iff.2 (ih distinct_nil hinner))
      · -- A table made by dotted keys, at any place or only in the one header, may take more
        next es hlookup =>
        obtain ⟨inner, hinner, rfl⟩ := Option.map_eq_some_iff.1 hassign
        exact h.set_table hlookup fun hes => ih hes hinner
      · next es hlookup =>
        split at hassign
        · cases hassign
        · obtain ⟨inner, hinner, rfl⟩ := Option.map_eq_some_iff.1 hassign
          exact h.set_table hlookup fun hes => ih hes hinner
      · -- The path goes on in the last table of the array
        next earlier last hlookup =>
        split at hassign
        · cases hassign
        · obtain ⟨inner, hinner, rfl⟩ := Option.map_eq_some_iff.1 hassign
          exact h.set_last hlookup fun hlast => ih hlast hinner
      · cases hassign

/-- A change at the end of a header's path. -/
theorem Distinct.reach {change : Option Value → Option Value} {path : List String}
    (h : entries.Distinct)
    (hchange : ∀ old new, (∀ v ∈ old, v.Distinct) → change old = some new → new.Distinct)
    (hreach : entries.reach change path = some entries') : entries'.Distinct := by
  -- As for a value, but the change happens at the last key
  induction path generalizing entries entries' with
  | nil => cases hreach
  | cons key path ih =>
    cases path with
    | nil =>
      -- What is found at the last key is distinct because the whole table is
      obtain ⟨new, hnew, rfl⟩ := Option.map_eq_some_iff.1 hreach
      exact h.set (hchange _ _ (fun v hv => h.of_lookup hv) hnew)
    | cons next path =>
      rw [Entries.reach] at hreach
      split at hreach
      · next hlookup =>
        obtain ⟨inner, hinner, rfl⟩ := Option.map_eq_some_iff.1 hreach
        exact h.set (distinct_table_iff.2 (ih distinct_nil hinner))
      · next origin es hlookup =>
        split at hreach
        · cases hreach
        · obtain ⟨inner, hinner, rfl⟩ := Option.map_eq_some_iff.1 hreach
          exact h.set_table hlookup fun hes => ih hes hinner
      · next earlier last hlookup =>
        obtain ⟨inner, hinner, rfl⟩ := Option.map_eq_some_iff.1 hreach
        exact h.set_last hlookup fun hlast => ih hlast hinner
      · cases hreach

/-! ## Several assignments -/

/-- What each step of a run keeps, the run keeps. -/
theorem foldlM_keeps {α β : Type} {P : β → Prop} {f : β → α → Option β} {l : List α}
    (hstep : ∀ a ∈ l, ∀ b b', P b → f b a = some b' → P b') {b b' : β} (hb : P b)
    (h : l.foldlM f b = some b') : P b' := by
  induction l generalizing b with
  | nil =>
    cases h
    exact hb
  | cons a l ih =>
    rw [List.foldlM_cons] at h
    obtain ⟨next, hnext, h⟩ := Option.bind_eq_some_iff.1 h
    rw [List.forall_mem_cons] at hstep
    exact ih hstep.2 (hstep.1 b next hb hnext) h

/-- Values under several dotted keys, one after the other. -/
theorem Distinct.assignAll {assignments : List (List String × Value)} (h : entries.Distinct)
    (hvalues : ∀ a ∈ assignments, a.2.Distinct)
    (hassign : Entries.assignAll assignments entries = some entries') : entries'.Distinct :=
  foldlM_keeps (fun a ha _ _ hes hstep => hes.assign (hvalues a ha) hstep) h hassign

/-- The table under a header, whether it is a new one or was there before. -/
theorem distinct_headed {assignments : List (List String × Value)}
    (hvalues : ∀ a ∈ assignments, a.2.Distinct) {old : Option Value} {new : Value}
    (hold : ∀ v ∈ old, v.Distinct) (h : headed assignments old = some new) : new.Distinct := by
  unfold headed at h
  split at h
  · -- Nothing is there: the assignments start from an empty table
    obtain ⟨es, hes, rfl⟩ := Option.map_eq_some_iff.1 h
    exact distinct_table_iff.2 (distinct_nil.assignAll hvalues hes)
  · -- A table that only paths have made so far takes the assignments in addition
    next es =>
    obtain ⟨es', hes', rfl⟩ := Option.map_eq_some_iff.1 h
    have hes := distinct_table_iff.1 (hold _ rfl)
    exact distinct_table_iff.2 (hes.assignAll hvalues hes')
  · cases h

/-- The array of tables to which a header in double brackets adds one. -/
theorem distinct_appended {assignments : List (List String × Value)}
    (hvalues : ∀ a ∈ assignments, a.2.Distinct) {old : Option Value} {new : Value}
    (hold : ∀ v ∈ old, v.Distinct) (h : appended assignments old = some new) : new.Distinct := by
  unfold appended at h
  split at h
  · obtain ⟨es, hes, rfl⟩ := Option.map_eq_some_iff.1 h
    exact distinct_tables_iff.2 ⟨List.forall_mem_nil _, distinct_nil.assignAll hvalues hes⟩
  · next earlier last =>
    obtain ⟨es, hes, rfl⟩ := Option.map_eq_some_iff.1 h
    -- The table that was the last one so far becomes an item like the others
    obtain ⟨hearlier, hlast⟩ := distinct_tables_iff.1 (hold _ rfl)
    refine distinct_tables_iff.2 ⟨?_, distinct_nil.assignAll hvalues hes⟩
    intro v hv
    rcases List.mem_append.1 hv with hv | hv
    · exact hearlier v hv
    · rw [List.mem_singleton.1 hv]
      exact distinct_table_iff.2 hlast
  · cases h

end Entries

end Toml

/-! ## Readers -/

namespace Reader

variable {α β : Type} {P : α → Prop}

/-- Whatever the reader takes from a text meets the condition. -/
def Yields (P : α → Prop) (p : Reader α) : Prop :=
  ∀ text a rest, p text = some (a, rest) → P a

/-- Each of the things that a bounded repetition takes meets the condition. -/
theorem Yields.manyAtMost {p : Reader α} (hp : p.Yields P) (n : Nat) (text : List Char) :
    ∀ a ∈ (p.manyAtMost n text).1, P a := by
  -- One round of the reader for each number
  induction n generalizing text with
  | zero => exact List.forall_mem_nil _
  | succ n ih =>
    rw [Reader.manyAtMost]
    cases hread : p text with
    | none => exact List.forall_mem_nil _
    | some found =>
      obtain ⟨a, rest⟩ := found
      exact List.forall_mem_cons.2 ⟨hp text a rest hread, ih rest⟩

/-- Each of the things that a repetition takes meets the condition. -/
theorem Yields.many {p : Reader α} (hp : p.Yields P) (text : List Char) :
    ∀ a ∈ (p.many text).1, P a :=
  hp.manyAtMost text.length text

/-- If all results of a function meet a condition, it does not matter what is read before. -/
theorem yields_map {Q : β → Prop} {p : Reader α} {f : α → β} (h : ∀ a, Q (f a)) :
    (p.map f).Yields Q := by
  intro text b rest hread
  obtain ⟨found, -, heq⟩ := Option.map_eq_some_iff.1 hread
  cases heq
  exact h found.1

/-- A function brings one condition on what is read to another. -/
theorem Yields.map {Q : β → Prop} {p : Reader α} (hp : p.Yields P) {f : α → β}
    (h : ∀ a, P a → Q (f a)) : (p.map f).Yields Q := by
  intro text b rest hread
  obtain ⟨⟨a, rest'⟩, hfound, heq⟩ := Option.map_eq_some_iff.1 hread
  cases heq
  exact h a (hp text a _ hfound)

end Reader

namespace Toml

/-! ## Values -/

/-- An integer, if it is in range, holds no table. -/
theorem Number.distinct_integer? {n : Int} {v : Value} (h : Number.integer? n = some v) :
    v.Distinct := by
  unfold Number.integer? at h
  split at h
  · cases h
    exact .integer n
  · cases h

/-- Integers with a base prefix hold no tables. -/
theorem Number.distinct_based (base : Nat) (ok : Char → Bool) :
    (Number.based base ok).Yields Value.Distinct := by
  intro text v rest h
  simp only [Number.based, Option.bind_eq_bind, Option.bind_eq_some_iff, Prod.exists] at h
  obtain ⟨ds, text', -, w, hw, h⟩ := h
  cases h
  exact distinct_integer? hw

theorem Number.distinct_special : Number.special.Yields Value.Distinct := by
  intro text v rest h
  obtain ⟨found, -, heq⟩ := Option.map_eq_some_iff.1 h
  cases heq
  exact .float _

/-- Decimal integers and floats hold none. -/
theorem Number.distinct_decimal : Number.decimal.Yields Value.Distinct := by
  intro text v rest h
  simp only [Number.decimal, Option.bind_eq_bind, Option.bind_eq_some_iff, Prod.exists] at h
  obtain ⟨ds, text', -, h⟩ := h
  -- A fraction and an exponent make a float, none of them an integer
  split at h
  · split at h
    · split at h <;> cases h
      exact .float _
    · split at h <;> cases h
      exact .float _
  · split at h
    · split at h <;> cases h
      exact .float _
    · obtain ⟨w, hw, h⟩ := Option.bind_eq_some_iff.1 h
      cases h
      exact distinct_integer? hw

/-- Numbers of all kinds hold none. -/
theorem Number.distinct_number : Number.number.Yields Value.Distinct := by
  intro text v rest h
  unfold Number.number at h
  split at h
  · -- Hexadecimal, octal and binary
    exact distinct_based _ _ _ _ _ h
  · exact distinct_based _ _ _ _ _ h
  · exact distinct_based _ _ _ _ _ h
  · rcases (Option.orElse_eq_some _ _ _).1 h with h | ⟨-, h⟩
    · exact distinct_special _ _ _ h
    · exact distinct_decimal _ _ _ h

namespace Value

theorem distinct_truth : truth.Yields Distinct := by
  intro text v rest h
  simp only [truth, Option.orElse_eq_some, Option.map_eq_some_iff] at h
  rcases h with ⟨found, -, heq⟩ | ⟨-, found, -, heq⟩ <;> cases heq <;> exact .boolean _

/-- Values that hold no other values have no key twice, whatever they are. -/
theorem distinct_scalar : scalar.Yields Distinct := by
  intro text v rest h
  simp only [scalar, Option.orElse_eq_some] at h
  -- The readers are tried in this order: a string, a date or time, a number, a truth value
  rcases h with h | ⟨-, h | ⟨-, h | ⟨-, h⟩⟩⟩
  · exact Reader.yields_map .string _ _ _ h
  · exact Reader.yields_map .datetime _ _ _ h
  · exact Number.distinct_number _ _ _ h
  · exact distinct_truth _ _ _ h

section Nested

variable {value : Reader Value}

/-- An item of an array is as good as the value that is read for it. -/
theorem distinct_item (hvalue : value.Yields Distinct) : (item value).Yields Distinct := by
  intro text v rest h
  obtain ⟨⟨w, rest'⟩, hread, heq⟩ := Option.map_eq_some_iff.1 h
  cases heq
  exact hvalue _ _ _ hread

theorem distinct_furtherItem (hvalue : value.Yields Distinct) :
    (furtherItem value).Yields Distinct := by
  intro text v rest h
  unfold furtherItem at h
  split at h
  · exact distinct_item hvalue _ _ _ h
  · cases h

/-- So are all items between the brackets. -/
theorem distinct_items (hvalue : value.Yields Distinct) (text : List Char) :
    ∀ v ∈ (items value text).1, v.Distinct := by
  unfold items
  split
  · exact List.forall_mem_nil _
  · next v rest hread =>
    -- The first item, and all that commas bring in behind it
    exact List.forall_mem_cons.2
      ⟨distinct_item hvalue _ _ _ hread, (distinct_furtherItem hvalue).many rest⟩

/-- An array, as far as the values in it are distinct. -/
theorem distinct_arrayBody (hvalue : value.Yields Distinct) :
    (arrayBody value).Yields Distinct := by
  intro text v rest h
  obtain ⟨found, -, heq⟩ := Option.map_eq_some_iff.1 h
  cases heq
  exact .array (distinct_items hvalue text)

/-- The value behind a dotted key is the one that is read there. -/
theorem distinct_assignment (hvalue : value.Yields Distinct) :
    (assignment value).Yields fun a => a.2.Distinct := by
  intro text a rest h
  simp only [assignment, Option.bind_eq_bind, Option.bind_eq_some_iff, Prod.exists] at h
  obtain ⟨path, text₁, -, -, text₂, -, v, text₃, hread, h⟩ := h
  cases h
  exact hvalue _ _ _ hread

theorem distinct_furtherAssignment (hvalue : value.Yields Distinct) :
    (furtherAssignment value).Yields fun a => a.2.Distinct := by
  intro text a rest h
  unfold furtherAssignment at h
  split at h
  · exact distinct_assignment hvalue _ _ _ h
  · cases h

/-- All assignments between the braces have such values. -/
theorem distinct_assignments (hvalue : value.Yields Distinct) (text : List Char) :
    ∀ a ∈ (assignments value text).1, a.2.Distinct := by
  unfold assignments
  split
  · exact List.forall_mem_nil _
  · next a rest hread =>
    exact List.forall_mem_cons.2
      ⟨distinct_assignment hvalue _ _ _ hread, (distinct_furtherAssignment hvalue).many rest⟩

/-- An inline table. Assignments under one key twice make no table at all. -/
theorem distinct_tableBody (hvalue : value.Yields Distinct) :
    (tableBody value).Yields Distinct := by
  intro text v rest h
  simp only [tableBody, Option.bind_eq_bind, Option.bind_eq_some_iff, Prod.exists] at h
  obtain ⟨-, rest', -, es, hes, h⟩ := h
  cases h
  -- Braces hold assignments, which fill an empty table
  exact Entries.distinct_table_iff.2
    (Entries.distinct_nil.assignAll (distinct_assignments hvalue text) hes)

end Nested

/-- A value that is read has no key twice, however deep. -/
theorem distinct_read (depth : Nat) : (read depth).Yields Distinct := by
  -- An array or inline table holds values that are read one level deeper
  induction depth with
  | zero =>
    intro text v rest h
    -- Brackets and braces are not opened any more
    exact distinct_scalar text v rest h
  | succ depth ih =>
    intro text v rest h
    unfold read at h
    split at h
    · next heq =>
      cases heq
      exact distinct_arrayBody ih _ _ _ h
    · next heq =>
      cases heq
      exact distinct_tableBody ih _ _ _ h
    · exact distinct_scalar _ _ _ h

end Value

/-! ## Documents -/

/-- The value that a statement assigns has no key twice. -/
def Statement.Distinct : Statement → Prop
  | assign _ v => v.Distinct
  | header _ | arrayHeader _ => True

theorem Statement.distinct_assignmentLine : assignmentLine.Yields Statement.Distinct := by
  intro text s rest h
  simp only [assignmentLine, Option.bind_eq_bind, Option.bind_eq_some_iff, Prod.exists] at h
  obtain ⟨path, v, text', hread, -, rest', -, h⟩ := h
  cases h
  exact Value.distinct_assignment (Value.distinct_read nestingLimit) _ _ _ hread

/-- What a line holds, if it holds a statement, has no key twice. -/
def Statement.LineDistinct (line : Option Statement) : Prop := ∀ s ∈ line, s.Distinct

/-- A line of any kind gives a statement whose value has no key twice, or no statement. -/
theorem Statement.distinct_line : line.Yields LineDistinct := by
  have hheader : ∀ path, LineDistinct (some (.header path)) := by
    rintro path _ ⟨⟩
    trivial
  have harray : ∀ path, LineDistinct (some (.arrayHeader path)) := by
    rintro path _ ⟨⟩
    trivial
  have hassign : ∀ s : Statement, s.Distinct → LineDistinct (some s) := by
    rintro s hs _ ⟨⟩
    exact hs
  intro text s rest h
  unfold line at h
  split at h
  · cases h
  -- An empty line or a comment holds no statement
  iterate 3
    · obtain ⟨found, -, heq⟩ := Option.map_eq_some_iff.1 h
      cases heq
      exact fun t ht => nomatch ht
  · exact Reader.yields_map harray _ _ _ h
  · exact Reader.yields_map hheader _ _ _ h
  · exact distinct_assignmentLine.map hassign _ _ _ h

/-- A line, together with the blanks in front of the next one. -/
theorem Statement.distinct_lineAndIndent : lineAndIndent.Yields LineDistinct := by
  intro text s rest h
  obtain ⟨⟨s', rest'⟩, hread, heq⟩ := Option.map_eq_some_iff.1 h
  cases heq
  exact distinct_line _ _ _ hread

/-- All statements of a text assign such values. -/
theorem Statement.distinct_list {text : List Char} {statements : List Statement}
    (h : list text = some statements) : ∀ s ∈ statements, s.Distinct := by
  unfold list at h
  split at h
  · next lines hlines =>
    cases h
    -- Lines without a statement are dropped from the list, the others are as they were read
    have hall := distinct_lineAndIndent.many (skipBlanks (skipByteOrderMark text))
    rw [hlines] at hall
    intro s hs
    exact hall (some s) (by simpa using hs) s rfl
  · cases h

/-- No value that the document assigns has a key twice. -/
structure Document.Distinct (d : Document) : Prop where
  top : ∀ a ∈ d.top, a.2.Distinct
  sections : ∀ s ∈ d.sections, ∀ a ∈ s.assignments, a.2.Distinct

/-- One more statement in front of a document changes nothing about its values. -/
theorem Document.Distinct.cons {s : Statement} {d : Document} (hs : s.Distinct) (h : d.Distinct) :
    (Document.cons s d).Distinct := by
  -- A header takes the assignments behind it and leaves none in front
  have hnone : ∀ a ∈ ([] : List (List String × Value)), a.2.Distinct := List.forall_mem_nil _
  cases s with
  | assign path v => exact ⟨List.forall_mem_cons.2 ⟨hs, h.top⟩, h.sections⟩
  | header path => exact ⟨hnone, List.forall_mem_cons.2 ⟨h.top, h.sections⟩⟩
  | arrayHeader path => exact ⟨hnone, List.forall_mem_cons.2 ⟨h.top, h.sections⟩⟩

/-- A document assigns the values of its statements. -/
theorem Document.distinct_ofStatements {statements : List Statement}
    (h : ∀ s ∈ statements, s.Distinct) : (ofStatements statements).Distinct := by
  -- From the last statement to the first, as the sections are gathered
  induction statements with
  | nil => exact ⟨List.forall_mem_nil _, List.forall_mem_nil _⟩
  | cons s statements ih =>
    rw [List.forall_mem_cons] at h
    exact (ih h.2).cons h.1

/-- The table that a document stands for, if there is one. -/
theorem Document.Distinct.entries? {d : Document} (h : d.Distinct) {root : Entries}
    (hroot : d.entries? = some root) : root.Distinct := by
  obtain ⟨es, hes, hsections⟩ := Option.bind_eq_some_iff.1 hroot
  have htop : es.Distinct := Entries.distinct_nil.assignAll h.top hes
  -- Each section changes the table that the ones in front have made
  refine Entries.foldlM_keeps (fun s hs es es' hdistinct hreach => ?_) htop hsections
  refine hdistinct.reach (fun old new hold hnew => ?_) hreach
  unfold Document.change at hnew
  split at hnew
  · exact Entries.distinct_appended (h.sections s hs) hold hnew
  · exact Entries.distinct_headed (h.sections s hs) hold hnew

/-- No table of a document has two entries under one key. -/
theorem distinct_parse {text : List Char} {root : Entries} (h : parse text = some root) :
    root.Distinct := by
  obtain ⟨statements, hstatements, hroot⟩ := Option.bind_eq_some_iff.1 h
  have hdocument := Document.distinct_ofStatements (Statement.distinct_list hstatements)
  exact hdocument.entries? hroot

end Toml

end TimePattern
