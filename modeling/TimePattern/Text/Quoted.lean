import TimePattern.Text.Unprintable

/-!
# Quoted text

Diagnostics show input inside quotes. The common control characters, the backslash and the
enclosing quote get a backslash; a character that could not be seen, or that would attach
to the quote, is written by its code point.

* `Quoted.escape`   how one character is shown
* `quoteText`, `quoteChar`   a text and a character in their quotes
-/

namespace TimePattern

namespace Quoted

/-- The lowercase hexadecimal digits of a code point, without leading zeros. -/
def hexCode (c : Char) : List Char := Nat.toDigits 16 c.toNat

/-- A character written by its code point, such as `\u{301}`. -/
def byCode (c : Char) : List Char := ['\\', 'u', '\x7b'] ++ hexCode c ++ ['\x7d']

/-- One character as it stands between two `quote`s. -/
def escape (quote c : Char) : List Char :=
  if c = '\x00' then ['\\', '0']
  else if c = '\t' then ['\\', 't']
  else if c = '\r' then ['\\', 'r']
  else if c = '\n' then ['\\', 'n']
  else if c = '\\' ∨ c = quote then ['\\', c]
  -- What cannot be seen by itself is shown by its code point
  else if isVisible c then [c]
  else byCode c

end Quoted

/-- A text between double quotes. A single quote inside it stays as it is. -/
def quoteText (text : List Char) : List Char :=
  '"' :: (text.flatMap (Quoted.escape '"') ++ ['"'])

/-- A character between single quotes. A double quote stays as it is. -/
def quoteChar (c : Char) : List Char :=
  '\'' :: (Quoted.escape '\'' c ++ ['\''])

end TimePattern
