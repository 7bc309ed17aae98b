import TimePattern.Text.Reader

/-!
# Blanks and comments in TOML

A line ends with a line feed, which a carriage return may precede. Spaces and tabs are blanks.
A comment runs from a hash to the end of its line and holds no control characters but tabs.
-/

namespace TimePattern.Toml

/-- A space or a tab. -/
def isBlank (c : Char) : Bool := c = ' ' || c = '\t'

/-- A character that may stand in a comment: a tab or any character but the ASCII controls. -/
def isCommentChar (c : Char) : Bool := c = '\t' || (0x20 ≤ c.toNat && c.toNat ≠ 0x7f)

/-- The text behind the blanks at its front. -/
def skipBlanks (text : List Char) : List Char := text.dropWhile isBlank

/-- The end of a line. -/
def newline : Reader Unit
  | '\n' :: rest => some ((), rest)
  | '\r' :: '\n' :: rest => some ((), rest)
  | _ => none

/-- A comment, without the end of its line. -/
def comment : Reader Unit
  | '#' :: rest => some ((), rest.dropWhile isCommentChar)
  | _ => none

/-- The text behind the comment at its front, if there is one. -/
def skipComment (text : List Char) : List Char :=
  match comment text with
  | some (_, rest) => rest
  | none => text

/-- The end of a line or of the whole text. -/
def lineEnd : Reader Unit
  | [] => some ((), [])
  | text => newline text

/-- What may follow a statement on its line: blanks and a comment. -/
def restOfLine : Reader Unit := fun text => lineEnd (skipComment (skipBlanks text))

/-- One blank, end of line, or comment with the end of its line. -/
def gap : Reader Unit := fun text =>
  match text with
  -- A comment has to end with its line, and not with the text
  | '#' :: _ => (comment text).bind fun (_, rest) => newline rest
  | c :: rest => if isBlank c then some ((), rest) else newline text
  | [] => none

/-- The text behind blanks, ends of lines and comments. -/
def skipGaps (text : List Char) : List Char := (Reader.many gap text).2

end TimePattern.Toml
