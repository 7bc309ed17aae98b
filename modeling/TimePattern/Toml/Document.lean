import TimePattern.Toml.Statement

/-!
# TOML documents

A document is its top-level assignments followed by sections, each with a header. `parse` reads
a text into the entries of the document's root table.
-/

namespace TimePattern.Toml

/-- A header and the assignments under it. -/
structure Section where
  /-- Whether the header adds a table to an array. -/
  isArray : Bool
  path : List String
  assignments : List (List String × Value)

/-- A document with its assignments gathered under their headers. -/
structure Document where
  /-- The assignments before the first header. -/
  top : List (List String × Value)
  sections : List Section

namespace Document

/-- Puts a statement in front of a document. -/
def cons (s : Statement) (d : Document) : Document :=
  match s with
  | .assign path v => { d with top := (path, v) :: d.top }
  -- The assignments so far stand under this header
  | .header path => ⟨[], ⟨false, path, d.top⟩ :: d.sections⟩
  | .arrayHeader path => ⟨[], ⟨true, path, d.top⟩ :: d.sections⟩

/-- Gathers assignments under the headers that they follow. -/
def ofStatements (statements : List Statement) : Document :=
  statements.foldr cons ⟨[], []⟩

/-- The change that a section makes at the end of its path. -/
def change (s : Section) : Option Value → Option Value :=
  if s.isArray then Entries.appended s.assignments else Entries.headed s.assignments

/-- The root table, if nothing in it is defined twice. -/
def entries? (d : Document) : Option Entries := do
  let root ← Entries.assignAll d.top []
  d.sections.foldlM (fun es s => es.reach (change s) s.path) root

end Document

/-- The entries of a document's root table, or `none` if the text is no TOML document. -/
def parse (text : List Char) : Option Entries :=
  (Statement.list text).bind fun statements => (Document.ofStatements statements).entries?

end TimePattern.Toml
