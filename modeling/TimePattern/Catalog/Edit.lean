import TimePattern.Catalog.Builtin
import TimePattern.Catalog.Load

/-!
# Runs of edits

An `Edit` is one step of working on a catalog. An edit that fails leaves the catalog as it was.
-/

namespace TimePattern

/-- One step of working on a catalog. -/
inductive Edit where
  /-- Start over with an empty catalog. -/
  | clear
  /-- Start over with the built-in catalog. -/
  | builtin
  /-- Start over with the catalog in the text of a document. -/
  | load (text : List Char)
  /-- Put a pattern under a name. -/
  | insert (name : String) (p : Pattern)

/-- The catalog after an edit. -/
def Edit.apply (c : Catalog) : Edit → Except LoadError Catalog
  | clear => .ok .empty
  | builtin => .ok .builtin
  | load text => Catalog.load text
  | insert name p => .ok (c.insert name p)

/-- The catalog after an edit, or as it was if the edit fails. -/
def Edit.run (c : Catalog) (e : Edit) : Catalog :=
  match e.apply c with
  | .ok c => c
  | .error _ => c

/-- The catalog after a list of edits. -/
def Catalog.run (c : Catalog) (edits : List Edit) : Catalog := edits.foldl Edit.run c

end TimePattern
