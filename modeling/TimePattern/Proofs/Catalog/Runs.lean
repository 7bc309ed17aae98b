import Mathlib.Data.List.Induction
import TimePattern.Catalog.Edit
import TimePattern.Proofs.Catalog.Lookup

/-!
# Catalogs after a run of edits

Some edits start over with a catalog of their own, the others insert a pattern or fail. What a
catalog holds after a run is therefore told by the edits since the last fresh start, the latest one
first, and by what that start brought along.

## Key results

- `get?_run_edit`: what one edit changes
- `get?_run`: what a run of edits leaves under a name
- `run_finiteMap`: all that can be observed of a catalog after a run
-/

namespace TimePattern

namespace Edit

/-- The catalog with which an edit starts over. Insertions and failures do not start over. -/
def fresh? : Edit → Option Catalog
  | clear => some .empty
  | builtin => some .builtin
  | load text => (Catalog.load text).toOption
  | insert _ _ => none

/-- The pattern that an edit inserts under a name. -/
def inserted? (name : String) : Edit → Option Pattern
  | insert name' p => if name = name' then some p else none
  | _ => none

/-- What edits put under a name, beginning with nothing: the latest insertion since the last fresh
    start, else what that start brought along. -/
def held? (edits : List Edit) (name : String) : Option Pattern :=
  let recent := edits.reverse
  ((recent.takeWhile (·.fresh?.isNone)).findSome? (·.inserted? name)).or
    ((recent.findSome? (·.fresh?)).bind (·.get? name))

end Edit

namespace Catalog

/-- An edit that starts over leaves its own catalog, an insertion changes one name, and a failure
    changes nothing. -/
theorem get?_run_edit (c : Catalog) (e : Edit) (name : String) :
    (e.run c).get? name = (e.inserted? name).or ((e.fresh?.getD c).get? name) := by
  cases e with
  | clear => rfl
  | builtin => rfl
  | load text =>
    simp only [Edit.run, Edit.apply, Edit.fresh?, Edit.inserted?]
    -- A load starts over or fails
    cases Catalog.load text <;> rfl
  | insert name' p =>
    simp only [Edit.run, Edit.apply, Edit.fresh?, Edit.inserted?, Option.getD_none]
    rw [get?_insert]
    split <;> rfl

/-- Edits may be run in two parts. -/
theorem run_append (c : Catalog) (edits edits' : List Edit) :
    c.run (edits ++ edits') = (c.run edits).run edits' :=
  List.foldl_append

/-- What a run of edits leaves under a name. -/
theorem get?_run (edits : List Edit) (name : String) :
    (empty.run edits).get? name = Edit.held? edits name := by
  -- The last edit decides, and then the run before it
  induction edits using List.reverseRecOn with
  | nil => rfl
  | append_singleton edits e ih =>
    rw [run_append]
    show (e.run (empty.run edits)).get? name = _
    rw [get?_run_edit]
    simp only [Edit.held?, List.reverse_append, List.reverse_singleton, List.singleton_append,
      List.takeWhile_cons, List.findSome?_cons] at ih ⊢
    cases hfresh : e.fresh? with
    | some c =>
      -- A fresh start inserts nothing, and nothing before it counts
      have hnone : e.inserted? name = none := by
        cases e with
        | insert name' p => cases hfresh
        | _ => rfl
      simp [hnone]
    | none =>
      rw [Option.getD_none, ih]
      cases hinserted : e.inserted? name with
      -- An insertion under this name is the latest one
      | some p => simp [hinserted]
      -- An edit of another name, or a failure, leaves it to the earlier ones
      | none => simp [hinserted]

/-- The later one of two insertions counts. -/
example (p q : Pattern) : (empty.run [.insert "date" p, .insert "date" q]).get? "date" = some q :=
  rfl

/-- A load that fails leaves the catalog as it was. -/
theorem run_load_of_error {text : List Char} {e : LoadError} (h : load text = .error e)
    (edits : List Edit) : empty.run (edits ++ [.load text]) = empty.run edits := by
  rw [run_append]
  show (Edit.load text).run (empty.run edits) = _
  rw [Edit.run, Edit.apply, h]

/-- After any run of edits the catalog is a finite map: it holds what the edits have put under
    each name, a name is required in vain just if nothing is held under it, and the names are listed
    once and in ascending order. A load that fails changes nothing. What is held is all that two
    catalogs can differ in, whether custom directives are told apart by name only or in full. -/
theorem run_finiteMap (edits : List Edit) :
    let c := empty.run edits
    (∀ name, c.get? name = Edit.held? edits name) ∧
    (∀ name, (∀ p, c.require name = .ok p ↔ c.get? name = some p) ∧
      ∀ e, c.require name = .error e ↔ c.get? name = none ∧ e = ⟨name⟩) ∧
    c.names.Pairwise (· < ·) ∧ (∀ name, name ∈ c.names ↔ ∃ p, c.get? name = some p) ∧
    c.size = c.names.length ∧ (c.isEmpty = true ↔ ∀ name, c.get? name = none) ∧
    (∀ text e, load text = .error e → empty.run (edits ++ [.load text]) = c) ∧
    ∀ edits', let c' := empty.run edits'
      ((c == c') = true ↔ ∀ name, (c.get? name == c'.get? name) = true) ∧
      (c = c' ↔ ∀ name, c.get? name = c'.get? name) := by
  intro c
  have hrequire : ∀ name, (∀ p, c.require name = .ok p ↔ c.get? name = some p) ∧
      ∀ e, c.require name = .error e ↔ c.get? name = none ∧ e = ⟨name⟩ :=
    fun name => ⟨c.require_eq_ok_iff name, fun _ => require_eq_error_iff⟩
  -- Names and patterns are two halves of one list
  have hsize : c.size = c.names.length := (List.length_map _).symm
  exact ⟨get?_run edits, hrequire, c.names_ascending, fun _ => mem_names_iff, hsize, isEmpty_iff,
    fun text e h => run_load_of_error h edits, fun edits' => ⟨beq_iff_get?, eq_iff_get?⟩⟩

end Catalog

end TimePattern
