import TimePattern.Toml.Text
import TimePattern.Toml.Number
import TimePattern.Toml.Datetime
import TimePattern.Toml.Table

/-!
# Statements of a TOML document

A document is a list of statements: assignments, headers of tables and headers of arrays of
tables. `Statement.list` reads them.

* `nestingLimit`   how deep arrays and inline tables may stand in one another
* `value`          a value of any kind
-/

namespace TimePattern.Toml

/-- One statement. -/
inductive Statement where
  | assign (path : List String) (v : Value)
  | header (path : List String)
  | arrayHeader (path : List String)

/-- One less than the number of arrays and inline tables that would stand in one another too
    deep, and also than the number of parts that make a dotted key too long. -/
def nestingLimit : Nat := 79

namespace Key

/-- A character of a key without quotes. -/
def isBare (c : Char) : Bool := c.isAlphanum || c = '_' || c = '-'

/-- A key without quotes. -/
def bare : Reader String := fun text =>
  match text.takeWhile isBare with
  | [] => none
  | name => some (String.ofList name, text.dropWhile isBare)

/-- One part of a key, with the blanks around it. -/
def part : Reader String := fun text =>
  let text := skipBlanks text
  ((Text.singleLine.map String.ofList text) <|> bare text).map
    fun (name, rest) => (name, skipBlanks rest)

/-- A further part, behind a dot. -/
def furtherPart : Reader String
  | '.' :: text => part text
  | _ => none

/-- A key: parts with dots between them, and not too many of them. -/
def path : Reader (List String) := fun text => do
  let (first, text) ← part text
  match Reader.many furtherPart text with
  | (further, text) =>
    -- A key with too many parts is no key at all
    if further.length < nestingLimit then some (first :: further, text) else none

end Key

namespace Value

/-- A truth value. -/
def truth : Reader Value := fun text =>
  ((Reader.exactly ['t', 'r', 'u', 'e'] text).map fun (_, rest) => (.boolean true, rest)) <|>
    (Reader.exactly ['f', 'a', 'l', 's', 'e'] text).map fun (_, rest) => (.boolean false, rest)

/-- A value that holds no other values. -/
def scalar : Reader Value := fun text =>
  (Text.string.map .string text) <|> (Datetime.datetime.map .datetime text) <|>
    Number.number text <|> truth text

/-- An item of an array, with the gaps around it. -/
def item (value : Reader Value) : Reader Value := fun text =>
  (value (skipGaps text)).map fun (v, rest) => (v, skipGaps rest)

/-- A further item, behind a comma. -/
def furtherItem (value : Reader Value) : Reader Value
  | ',' :: text => item value text
  | _ => none

/-- The comma that may follow the last item. -/
def skipComma : List Char → List Char
  | ',' :: text => text
  | text => text

/-- The items of an array. -/
def items (value : Reader Value) (text : List Char) : List Value × List Char :=
  match item value text with
  | none => ([], text)
  | some (v, text) =>
    match Reader.many (furtherItem value) text with
    | (vs, text) => (v :: vs, skipComma text)

/-- An array, behind its opening bracket. -/
def arrayBody (value : Reader Value) : Reader Value := fun text =>
  match items value text with
  | (vs, text) => (Reader.exactly [']'] (skipGaps text)).map fun (_, rest) => (.array vs, rest)

/-- A value under its key, up to the blanks behind it. -/
def assignment (value : Reader Value) : Reader (List String × Value) := fun text => do
  let (path, text) ← Key.path text
  let (_, text) ← Reader.exactly ['='] text
  let (v, text) ← value (skipBlanks text)
  return ((path, v), skipBlanks text)

/-- A further assignment, behind a comma. -/
def furtherAssignment (value : Reader Value) : Reader (List String × Value)
  | ',' :: text => assignment value text
  | _ => none

/-- The assignments of an inline table. No comma follows the last one. -/
def assignments (value : Reader Value) (text : List Char) :
    List (List String × Value) × List Char :=
  match assignment value text with
  | none => ([], text)
  | some (a, text) =>
    match Reader.many (furtherAssignment value) text with
    | (as, text) => (a :: as, text)

/-- An inline table, behind its opening brace. It stands on one line. -/
def tableBody (value : Reader Value) : Reader Value := fun text =>
  match assignments value text with
  | (as, text) => do
    let (_, text) ← Reader.exactly ['\x7d'] (skipBlanks text)
    return (.table .inline (← Entries.assignAll as []), text)

/-- A value in which arrays and inline tables stand in one another at most `depth` deep. -/
def read (depth : Nat) : Reader Value := fun text =>
  match depth, text with
  | depth + 1, '[' :: text => arrayBody (read depth) text
  | depth + 1, '\x7b' :: text => tableBody (read depth) text
  -- Too deep, or no bracket: what stands here has to be a value without others in it
  | _, text => scalar text

end Value

namespace Statement

/-- A header between the given brackets. -/
def headerIn (opening closing : List Char) : Reader (List String) := fun text => do
  let (_, text) ← Reader.exactly opening text
  let (path, text) ← Key.path text
  let (_, text) ← Reader.exactly closing text
  let (_, text) ← restOfLine text
  return (path, text)

/-- An assignment on a line of its own. -/
def assignmentLine : Reader Statement := fun text => do
  let ((path, v), text) ← Value.assignment (Value.read nestingLimit) text
  let (_, text) ← restOfLine text
  return (.assign path v, text)

/-- A line without its indentation: a statement, or none if the line is empty or holds only a
    comment. -/
def line : Reader (Option Statement) := fun text =>
  match text with
  | [] => none
  | '#' :: _ | '\n' :: _ | '\r' :: _ => (restOfLine text).map fun (_, rest) => (none, rest)
  | '[' :: '[' :: _ => (headerIn ['[', '['] [']', ']']).map (some ∘ .arrayHeader) text
  | '[' :: _ => (headerIn ['['] [']']).map (some ∘ .header) text
  | _ => assignmentLine.map some text

/-- A line, with the indentation of the next one. -/
def lineAndIndent : Reader (Option Statement) := fun text =>
  (line text).map fun (s, rest) => (s, skipBlanks rest)

/-- The text behind the byte order mark that may stand at its front. -/
def skipByteOrderMark : List Char → List Char
  | '\ufeff' :: text => text
  | text => text

/-- The statements of a document. -/
def list (text : List Char) : Option (List Statement) :=
  match Reader.many lineAndIndent (skipBlanks (skipByteOrderMark text)) with
  -- What is left behind the last line that can be read makes the whole text no document
  | (lines, []) => some (lines.filterMap id)
  | _ => none

end Statement

end TimePattern.Toml
