import TimePattern.Pattern

/-!
# Catalogs of named patterns

A catalog is a finite map from names to patterns. Its entries stand in ascending order of their
names, compared by Unicode code points, so catalogs with the same contents are equal.

* `get?_insert`    what a catalog holds after an insertion
* `require_eq_ok_iff`  a pattern is found exactly if it is there
-/

namespace TimePattern

/-- Patterns by name. -/
structure Catalog where
  entries : List (String × Pattern)
  /-- The names ascend, so none occurs twice. -/
  ascending : entries.Pairwise fun a b => a.1 < b.1

/-- No pattern has this name. -/
structure UnknownPattern where
  name : String

/-- The text of the diagnostic. -/
def UnknownPattern.message (e : UnknownPattern) : String := "no format named `" ++ e.name ++ "`"

namespace Catalog

/-- The catalog without entries. -/
def empty : Catalog := ⟨[], .nil⟩

instance : Inhabited Catalog := ⟨empty⟩

/-- Equality, where custom directives are compared by name. -/
def same (a b : Catalog) : Bool := a.entries == b.entries

instance : BEq Catalog := ⟨same⟩

/-! ## Ascending lists -/

/-- Puts a pattern under a name into a list whose names ascend. -/
def insertEntry (name : String) (p : Pattern) :
    List (String × Pattern) → List (String × Pattern)
  | [] => [(name, p)]
  | (name', p') :: rest =>
    if name < name' then (name, p) :: (name', p') :: rest
    else if name = name' then (name, p) :: rest
    else (name', p') :: insertEntry name p rest

/-- An insertion brings in no entry but the new one. -/
theorem mem_insertEntry {name : String} {p : Pattern} {entries : List (String × Pattern)}
    {e : String × Pattern} (h : e ∈ insertEntry name p entries) : e = (name, p) ∨ e ∈ entries := by
  induction entries with
  | nil => simpa [insertEntry] using h
  | cons head rest ih =>
    obtain ⟨name', p'⟩ := head
    simp only [insertEntry] at h
    -- The three places where the entry can go: before the first one, in its place, or further on
    split at h
    · simpa using h
    · split at h
      · rcases List.mem_cons.1 h with h | h
        · exact .inl h
        · exact .inr (List.mem_cons_of_mem _ h)
      · rcases List.mem_cons.1 h with h | h
        · exact .inr (h ▸ List.mem_cons_self)
        · exact (ih h).imp_right (List.mem_cons_of_mem _)

/-- Of two different names one comes first. -/
theorem lt_of_not_lt_of_ne {a b : String} (h : ¬ a < b) (hne : a ≠ b) : b < a :=
  Decidable.byContradiction fun hba => hne (String.le_antisymm hba h)

/-- The names still ascend after an insertion. -/
theorem ascending_insertEntry (name : String) (p : Pattern) {entries : List (String × Pattern)}
    (h : entries.Pairwise fun a b => a.1 < b.1) :
    (insertEntry name p entries).Pairwise fun a b => a.1 < b.1 := by
  induction entries with
  | nil => simp [insertEntry]
  | cons head rest ih =>
    obtain ⟨name', p'⟩ := head
    obtain ⟨hhead, hrest⟩ := List.pairwise_cons.1 h
    simp only [insertEntry]
    split
    · next hlt =>
      -- The new name comes before all others, since it comes before the first
      refine List.pairwise_cons.2 ⟨fun e he => ?_, h⟩
      rcases List.mem_cons.1 he with rfl | he
      · exact hlt
      · exact String.lt_trans hlt (hhead e he)
    · next hnlt =>
      split
      · next heq =>
        subst heq
        exact List.pairwise_cons.2 ⟨hhead, hrest⟩
      · next hne =>
        refine List.pairwise_cons.2 ⟨fun e he => ?_, ih hrest⟩
        -- What follows the first entry is the new one or was there before
        rcases mem_insertEntry he with rfl | he
        · exact lt_of_not_lt_of_ne hnlt hne
        · exact hhead e he

/-! ## Operations -/

/-- Puts a pattern under a name, in place of the one that was there. -/
def insert (c : Catalog) (name : String) (p : Pattern) : Catalog :=
  ⟨insertEntry name p c.entries, ascending_insertEntry name p c.ascending⟩

/-- The pattern with a name. -/
def get? (c : Catalog) (name : String) : Option Pattern := c.entries.lookup name

/-- The pattern with a name, which ought to be there. -/
def require (c : Catalog) (name : String) : Except UnknownPattern Pattern :=
  match c.get? name with
  | some p => .ok p
  | none => .error ⟨name⟩

/-- The names, in ascending order. -/
def names (c : Catalog) : List String := c.entries.map (·.1)

/-- The number of patterns. -/
def size (c : Catalog) : Nat := c.entries.length

/-- Whether the catalog has no entries. -/
def isEmpty (c : Catalog) : Bool := c.entries.isEmpty

/-- The catalog of a list of named patterns; of two with the same name the later one counts. -/
def ofList (entries : List (String × Pattern)) : Catalog :=
  entries.foldl (fun c e => c.insert e.1 e.2) empty

/-! ## What a catalog holds -/

@[simp] theorem get?_empty (name : String) : empty.get? name = none := rfl

/-- A list is searched from its front. -/
theorem lookup_entry {α : Type} (name k : String) (q : α) (rest : List (String × α)) :
    ((k, q) :: rest).lookup name = if name = k then some q else rest.lookup name := by
  rw [List.lookup_cons]
  by_cases h : name = k
  · simp [h]
  · simp [h, beq_false_of_ne h]

/-- An inserted pattern is found under its name, and the other names keep theirs. -/
theorem lookup_insertEntry (name name' : String) (p : Pattern)
    (entries : List (String × Pattern)) :
    (insertEntry name p entries).lookup name' =
      if name' = name then some p else entries.lookup name' := by
  induction entries with
  | nil => simp [insertEntry, lookup_entry]
  | cons head rest ih =>
    obtain ⟨k, q⟩ := head
    simp only [insertEntry]
    split
    · simp only [lookup_entry]
    · split
      · next heq =>
        subst heq
        simp only [lookup_entry]
        split <;> rfl
      · next hne =>
        simp only [lookup_entry, ih]
        -- The name that is looked for is not that of the first entry, if it is the new one
        by_cases h : name' = name
        · subst h; simp [hne]
        · simp [h]

/-- What a catalog holds after an insertion. -/
theorem get?_insert (c : Catalog) (name name' : String) (p : Pattern) :
    (c.insert name p).get? name' = if name' = name then some p else c.get? name' :=
  lookup_insertEntry name name' p c.entries

/-- A pattern that ought to be there is found exactly if it is there. -/
theorem require_eq_ok_iff (c : Catalog) (name : String) (p : Pattern) :
    c.require name = .ok p ↔ c.get? name = some p := by
  unfold require
  split <;> simp_all

end Catalog

end TimePattern
