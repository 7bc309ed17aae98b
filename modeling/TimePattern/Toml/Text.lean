import TimePattern.Toml.Blank

/-!
# Strings in TOML

Four kinds of strings: in double quotes, where a backslash begins an escape; in single quotes,
where every character stands for itself; and both kinds between three quotes, which may go over
several lines. A string is its opening quotes, a run of *units*, and its closing quotes.
-/

namespace TimePattern.Toml.Text

/-- A character that may stand in a string in double quotes for itself. -/
def isPlain (c : Char) : Bool := isCommentChar c && c ≠ '"' && c ≠ '\\'

/-- A character that may stand in a string in single quotes. -/
def isLiteral (c : Char) : Bool := isCommentChar c && c ≠ '\''

/-- The value of a hexadecimal digit. -/
def hexValue? (c : Char) : Option Nat :=
  if c.isDigit then some (c.toNat - '0'.toNat)
  else if 'a' ≤ c ∧ c ≤ 'f' then some (c.toNat - 'a'.toNat + 10)
  else if 'A' ≤ c ∧ c ≤ 'F' then some (c.toNat - 'A'.toNat + 10)
  else none

/-- The value of a run of hexadecimal digits. -/
def hexNumber? (digits : List Char) : Option Nat :=
  digits.foldlM (fun n c => (hexValue? c).map (16 * n + ·)) 0

/-- The character with a code point that is written in `count` hexadecimal digits. -/
def codePoint (count : Nat) : Reader Char := fun text =>
  let digits := text.take count
  if digits.length = count then
    (hexNumber? digits).bind fun n =>
      -- Surrogates and numbers beyond Unicode are no characters
      if n.isValidChar then some (Char.ofNat n, text.drop count) else none
  else none

/-- What an escape stands for, behind its backslash. -/
def escape : Reader Char
  | 'b' :: rest => some ('\x08', rest)
  | 'f' :: rest => some ('\x0c', rest)
  | 'n' :: rest => some ('\n', rest)
  | 'r' :: rest => some ('\r', rest)
  | 't' :: rest => some ('\t', rest)
  | '"' :: rest => some ('"', rest)
  | '\\' :: rest => some ('\\', rest)
  | 'u' :: rest => codePoint 4 rest
  | 'U' :: rest => codePoint 8 rest
  | _ => none

/-- A unit between double quotes. -/
def basicUnit : Reader Char
  | '\\' :: rest => escape rest
  | c :: rest => if isPlain c then some (c, rest) else none
  | [] => none

/-- A blank or an end of line. -/
def blankOrNewline : Reader Unit := fun text =>
  match text with
  | c :: rest => if isBlank c then some ((), rest) else newline text
  | [] => none

/-- A line that goes on behind the next character that is not blank: a backslash before the end
    of its line takes all blanks and ends of lines behind it. The backslash itself is gone. -/
def joinedLine : Reader Unit := fun text =>
  (newline (skipBlanks text)).map fun (_, rest) => ((), (Reader.many blankOrNewline rest).2)

/-- Whether a `quote` at the front of the text belongs to the string. Three of them would close
    it; up to two more may stand directly before those. -/
def isInnerQuote (quote : Char) (text : List Char) : Bool :=
  let run := (text.takeWhile (· = quote)).length
  run = 1 || run = 2 || run = 4 || run = 5

/-- A unit between three double quotes: the characters that it adds to the string. -/
def multilineBasicUnit : Reader (List Char) := fun text =>
  match text with
  | '\\' :: rest =>
    match joinedLine rest with
    -- The backslash and the end of its line add nothing
    | some (_, rest) => some ([], rest)
    | none => (escape rest).map fun (c, rest) => ([c], rest)
  | c :: rest =>
    if isPlain c ∨ c = '"' ∧ isInnerQuote '"' text then some ([c], rest)
    else (newline text).map fun (_, rest) => (['\n'], rest)
  | [] => none

/-- A unit between three single quotes. -/
def multilineLiteralUnit : Reader (List Char) := fun text =>
  match text with
  | c :: rest =>
    if isLiteral c ∨ c = '\'' ∧ isInnerQuote '\'' text then some ([c], rest)
    else (newline text).map fun (_, rest) => (['\n'], rest)
  | [] => none

/-- A run of units up to the closing quotes. -/
def closedBy {α : Type} (quotes : List Char) (unit : Reader α) : Reader (List α) := fun text =>
  match Reader.many unit text with
  | (units, rest) => (Reader.exactly quotes rest).map fun (_, rest) => (units, rest)

/-- A string on one line. -/
def singleLine : Reader (List Char)
  | '"' :: rest => closedBy ['"'] basicUnit rest
  | '\'' :: rest => closedBy ['\''] (Reader.satisfying isLiteral) rest
  | _ => none

/-- The text behind the end of line at its front, if there is one: an end of line right behind
    the opening quotes does not count. -/
def skipNewline (text : List Char) : List Char :=
  match newline text with
  | some (_, rest) => rest
  | none => text

/-- A string of any kind. -/
def string : Reader (List Char)
  | '"' :: '"' :: '"' :: rest =>
    (closedBy ['"', '"', '"'] multilineBasicUnit (skipNewline rest)).map
      fun (units, rest) => (units.flatten, rest)
  | '\'' :: '\'' :: '\'' :: rest =>
    (closedBy ['\'', '\'', '\''] multilineLiteralUnit (skipNewline rest)).map
      fun (units, rest) => (units.flatten, rest)
  | text => singleLine text

end TimePattern.Toml.Text
