import Mathlib.Data.List.Forall2
import TimePattern.Catalog

/-!
# Catalogs as finite maps

A catalog is known by what it holds under each name. Its names are those under which it holds
something, and since its entries ascend, two catalogs that hold the same are the same.

## Key results

- `mem_names_iff`: the names of a catalog
- `lookup_rel_of_forall₂`: lists that correspond entry by entry do so name by name
- `forall₂_of_lookup_rel`: ascending lists that correspond name by name do so entry by entry
- `eq_iff_get?` / `beq_iff_get?`: catalogs with equal contents are equal
-/

namespace TimePattern.Catalog

/-! ## Names -/

/-- Each name is listed once, behind the smaller ones. -/
theorem names_ascending (c : Catalog) : c.names.Pairwise (· < ·) :=
  List.pairwise_map.2 c.ascending

/-- The names are those under which something is held. -/
theorem mem_names_iff {c : Catalog} {name : String} :
    name ∈ c.names ↔ ∃ p, c.get? name = some p := by
  -- Both sides speak of an entry with this name
  rw [← Option.isSome_iff_exists, get?, List.lookup_isSome_iff, names, List.mem_map]
  constructor
  · rintro ⟨e, he, rfl⟩
    exact ⟨e, he, beq_self_eq_true e.1⟩
  · rintro ⟨e, he, hname⟩
    exact ⟨e, he, (eq_of_beq hname).symm⟩

/-- A catalog is empty if it holds nothing under any name. -/
theorem isEmpty_iff {c : Catalog} : c.isEmpty = true ↔ ∀ name, c.get? name = none := by
  constructor
  · intro h name
    rw [isEmpty, List.isEmpty_iff] at h
    -- Nothing is found in an empty list
    rw [get?, h]
    rfl
  · intro h
    cases hentries : c.entries with
    | nil => rw [isEmpty, hentries]; rfl
    | cons e entries =>
      -- Something is held under the name of a first entry
      have hname : e.1 ∈ c.names := by simp [names, hentries]
      obtain ⟨p, hp⟩ := mem_names_iff.1 hname
      rw [h] at hp
      cases hp

/-- A pattern is required in vain if none is held, and the failure tells its name. -/
theorem require_eq_error_iff {c : Catalog} {name : String} {e : UnknownPattern} :
    c.require name = .error e ↔ c.get? name = none ∧ e = ⟨name⟩ := by
  unfold require
  cases c.get? name <;> simp [eq_comm]

/-! ## Equal contents -/

/-- Nothing is held under a name before the first one. -/
theorem lookup_eq_none_of_lt {name : String} {entries : List (String × Pattern)}
    (h : ∀ e ∈ entries, name < e.1) : entries.lookup name = none := by
  rw [List.lookup_eq_none_iff]
  intro e he
  have hlt := h e he
  -- An entry of this name would come before itself
  rw [bne_iff_ne]
  intro heq
  rw [heq] at hlt
  exact String.lt_irrefl _ hlt

/-- Names before the first one are before all. -/
theorem lt_of_lt_first {name : String} {e : String × Pattern} {entries : List (String × Pattern)}
    (h : (e :: entries).Pairwise fun a b => a.1 < b.1) (hname : name < e.1) :
    ∀ e' ∈ e :: entries, name < e'.1 := by
  intro e' he'
  rcases List.mem_cons.1 he' with rfl | he'
  · exact hname
  · exact String.lt_trans hname ((List.pairwise_cons.1 h).1 e' he')

section Rel

variable {α β : Type} {R : α → β → Prop} {l : List (String × α)} {l' : List (String × β)}

/-- Lists of entries that correspond one by one have the same names. -/
theorem names_eq_of_forall₂ (h : List.Forall₂ (fun a b => a.1 = b.1 ∧ R a.2 b.2) l l') :
    l.map Prod.fst = l'.map Prod.fst := by
  induction h with
  | nil => rfl
  | cons hab _ ih => rw [List.map_cons, List.map_cons, hab.1, ih]

/-- Lists of entries that correspond one by one hold what corresponds, name by name. -/
theorem lookup_rel_of_forall₂ (h : List.Forall₂ (fun a b => a.1 = b.1 ∧ R a.2 b.2) l l')
    (name : String) : Option.Rel R (l.lookup name) (l'.lookup name) := by
  induction h with
  | nil => exact .none
  | @cons a b l l' hab _ ih =>
    obtain ⟨k, p⟩ := a
    obtain ⟨k', p'⟩ := b
    obtain ⟨rfl, hp⟩ := hab
    rw [lookup_entry, lookup_entry]
    -- The first entries answer for their own name, and the rest for the others
    by_cases hname : name = k
    · rw [if_pos hname, if_pos hname]
      exact .some hp
    · rw [if_neg hname, if_neg hname]
      exact ih

end Rel

/-- Ascending lists of entries that hold the same name by name are the same entry by entry. -/
theorem forall₂_of_lookup_rel {R : Pattern → Pattern → Prop} {l l' : List (String × Pattern)}
    (hl : l.Pairwise fun a b => a.1 < b.1)
    (hl' : l'.Pairwise fun a b => a.1 < b.1)
    (h : ∀ name, Option.Rel R (l.lookup name) (l'.lookup name)) :
    List.Forall₂ (fun a b => a.1 = b.1 ∧ R a.2 b.2) l l' := by
  induction l generalizing l' with
  | nil =>
    cases l' with
    | nil => exact .nil
    | cons b l' =>
      -- Nothing on the left answers the first name on the right
      have hb := h b.1
      rw [lookup_entry, if_pos rfl] at hb
      cases hb
  | cons a l ih =>
    obtain ⟨k, p⟩ := a
    have hk := h k
    rw [lookup_entry, if_pos rfl] at hk
    cases l' with
    | nil => cases hk
    | cons b l' =>
      obtain ⟨k', p'⟩ := b
      have hk' := h k'
      rw [lookup_entry k' k' p', if_pos rfl] at hk'
      -- The smaller one of the first names would be missing on the other side
      have hnlt : ¬ k < k' := by
        intro hlt
        rw [lookup_eq_none_of_lt (lt_of_lt_first hl' hlt)] at hk
        cases hk
      have hnlt' : ¬ k' < k := by
        intro hlt
        rw [lookup_eq_none_of_lt (lt_of_lt_first hl hlt)] at hk'
        cases hk'
      have heq : k = k' := Decidable.byContradiction fun hne => hnlt' (lt_of_not_lt_of_ne hnlt hne)
      subst heq
      rw [lookup_entry, if_pos rfl] at hk
      -- Under the name that both begin with, the first entries are held
      cases hk with
      | some hp =>
        obtain ⟨hfirst, hl⟩ := List.pairwise_cons.1 hl
        obtain ⟨hfirst', hl'⟩ := List.pairwise_cons.1 hl'
        refine .cons ⟨rfl, hp⟩ (ih hl hl' fun name => ?_)
        -- Both tails lack the first name, and hold the others as the whole lists do
        by_cases hname : name = k
        · rw [hname, lookup_eq_none_of_lt hfirst, lookup_eq_none_of_lt hfirst']
          exact .none
        · have hrest := h name
          rwa [lookup_entry, lookup_entry, if_neg hname, if_neg hname] at hrest

/-- Catalogs that hold the same are the same. -/
theorem eq_iff_get? {c c' : Catalog} : c = c' ↔ ∀ name, c.get? name = c'.get? name := by
  constructor
  · rintro rfl name
    rfl
  · intro h
    have hrel : ∀ name, Option.Rel Eq (c.entries.lookup name) (c'.entries.lookup name) := by
      intro name
      have hname := h name
      simp only [get?] at hname
      rw [hname]
      cases c'.entries.lookup name with
      | none => exact .none
      | some p => exact .some rfl
    -- Equal contents make the entries correspond, here by equality
    have hentries := forall₂_of_lookup_rel c.ascending c'.ascending hrel
    simp only [← Prod.ext_iff, List.forall₂_eq_eq_eq] at hentries
    obtain ⟨entries, _⟩ := c
    obtain ⟨entries', _⟩ := c'
    cases hentries
    rfl

/-- Lists of entries are equal if their names are, and their patterns as far as they can be told
    apart. -/
theorem beq_entries_iff {l l' : List (String × Pattern)} :
    (l == l') = true ↔ List.Forall₂ (fun a b => a.1 = b.1 ∧ (a.2 == b.2) = true) l l' := by
  induction l generalizing l' with
  | nil => cases l' <;> simp
  | cons a l ih =>
    cases l' with
    | nil => simp
    | cons b l' =>
      obtain ⟨k, p⟩ := a
      obtain ⟨k', p'⟩ := b
      rw [List.cons_beq_cons, Bool.and_eq_true, ih, List.forall₂_cons]
      -- Entries are compared name first, as pairs are
      show (k == k' && p == p') = true ∧ _ ↔ _
      rw [Bool.and_eq_true, beq_iff_eq]

/-- Two patterns that may be missing are equal if both are missing or both are there and equal. -/
theorem beq_option_iff {o o' : Option Pattern} :
    (o == o') = true ↔ Option.Rel (fun p q => (p == q) = true) o o' := by
  constructor
  · intro h
    cases o <;> cases o' <;> simp at h
    · exact .none
    · exact .some h
  · rintro (h | _)
    · simpa using h
    · rfl

/-- Catalogs are equal as far as names tell custom directives apart if what they hold is. -/
theorem beq_iff_get? {c c' : Catalog} :
    (c == c') = true ↔ ∀ name, (c.get? name == c'.get? name) = true := by
  show (c.entries == c'.entries) = true ↔ _
  rw [beq_entries_iff]
  constructor
  · intro h name
    exact beq_option_iff.2 (lookup_rel_of_forall₂ h name)
  · intro h
    exact forall₂_of_lookup_rel c.ascending c'.ascending fun name => beq_option_iff.1 (h name)

end TimePattern.Catalog
