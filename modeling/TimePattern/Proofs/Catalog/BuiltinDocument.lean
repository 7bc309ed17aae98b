import TimePattern.Catalog.Builtin
import TimePattern.Proofs.Catalog.Loading

/-!
# The document of the built-in catalog

The built-in patterns are also written down in a document. It is loaded like any other, and the
catalog that comes out is the built-in one. The first line of the document is a comment, and what
that says does not matter.

## Key results

- `Toml.parse_commentLine`: a comment on a line in front of a document changes nothing
- `Catalog.load_builtinText`: the document gives the built-in catalog
-/

namespace TimePattern

/-! ## Comments in front of a document -/

namespace Toml

variable {comment text : List Char}

/-- A comment takes its line with it, and the indentation of the next one. -/
theorem Statement.lineAndIndent_comment (hcomment : ∀ c ∈ comment, isCommentChar c = true) :
    lineAndIndent ('#' :: (comment ++ '\n' :: text)) = some (none, skipBlanks text) := by
  -- The comment goes on up to the end of its line and no further
  have hrest : (comment ++ '\n' :: text).dropWhile isCommentChar = '\n' :: text :=
    List.dropWhile_append_of_pos hcomment
  have hskip : skipComment ('#' :: (comment ++ '\n' :: text)) = '\n' :: text := hrest
  show (((lineEnd (skipComment ('#' :: (comment ++ '\n' :: text)))).map _).map _) = _
  rw [hskip]
  rfl

/-- A line with a comment is no statement, so that it may stand in front of others. -/
theorem Statement.list_commentLine (hcomment : ∀ c ∈ comment, isCommentChar c = true)
    (hmark : skipByteOrderMark text = text) {statements : List Statement}
    (h : list text = some statements) :
    list ('#' :: (comment ++ '\n' :: text)) = some statements := by
  unfold list at h
  rw [hmark] at h
  split at h
  · next lines hmany =>
    -- All lines are read, so that the length of the comment only allows for more rounds
    have hstop : lineAndIndent (Reader.many lineAndIndent (skipBlanks text)).2 = none := by
      rw [hmany]
      rfl
    have hlength : (skipBlanks text).length ≤ (comment ++ '\n' :: text).length := by
      have hblanks : (skipBlanks text).length ≤ text.length :=
        (List.dropWhile_sublist isBlank).length_le
      rw [List.length_append, List.length_cons]
      omega
    obtain ⟨k, hk⟩ := Nat.exists_eq_add_of_le hlength
    have hlines : Reader.manyAtMost lineAndIndent (comment ++ '\n' :: text).length
        (skipBlanks text) = (lines, []) := by
      rw [hk, Reader.manyAtMost_add hstop]
      exact hmany
    have hall : Reader.many lineAndIndent ('#' :: (comment ++ '\n' :: text)) =
        (none :: lines, []) := by
      rw [Reader.many, List.length_cons, Reader.manyAtMost, lineAndIndent_comment hcomment]
      simp only [hlines]
    have hfront : skipBlanks (skipByteOrderMark ('#' :: (comment ++ '\n' :: text))) =
        '#' :: (comment ++ '\n' :: text) := rfl
    rw [list, hfront, hall]
    exact h
  · cases h

/-- A comment on a line in front of a document changes nothing. -/
theorem parse_commentLine (hcomment : ∀ c ∈ comment, isCommentChar c = true)
    (hmark : Statement.skipByteOrderMark text = text) {root : Entries}
    (h : parse text = some root) : parse ('#' :: (comment ++ '\n' :: text)) = some root := by
  obtain ⟨statements, hlist, hroot⟩ := Option.bind_eq_some_iff.1 h
  rw [parse, Statement.list_commentLine hcomment hmark hlist]
  exact hroot

end Toml

/-! ## The built-in patterns -/

namespace Catalog

/-- The entries of the table of formats in the document. -/
def builtinEntries : Toml.Entries :=
  [("iso8601-date", .table .inline [("preset", .string "iso8601-date".toList)]),
   ("iso8601-date-and-time", .table .inline [("preset", .string "iso8601-date-and-time".toList)]),
   ("date", .string "YYYY-MM-DD".toList),
   ("time", .string "h:mm:s".toList),
   ("compact", .string "YYYYMMDDThmms".toList),
   ("epoch", .string "EPOCH".toList),
   ("offset", .string "ZZ:ZZ".toList),
   ("syslog", .string "Mon DD h:mm:s".toList)]

set_option maxRecDepth 4000 in
/-- The document is read as one table of formats. The reader is run on it once. -/
theorem parse_builtinText :
    Toml.parse builtinText = some [("formats", .table .header builtinEntries)] := by
  rfl

/-- The document loads as the built-in catalog, whatever the comment on its first line says. -/
theorem load_builtinText {comment : List Char}
    (hcomment : ∀ c ∈ comment, Toml.isCommentChar c = true) :
    load ('#' :: (comment ++ '\n' :: builtinText)) = .ok builtin := by
  have hparse := Toml.parse_commentLine hcomment rfl parse_builtinText
  refine (load_eq_ok_iff hparse rfl).2 ⟨_, ?_, rfl⟩
  -- Each entry denotes the source that the catalog has under its name
  rfl

end Catalog

end TimePattern
