import TimePattern.Toml.Value
import TimePattern.Text.Reader

/-!
# Numbers in TOML

Integers in base 10, 16, 8 and 2, which fit 64 bits with a sign, and floats, of which no positive
one may exceed the range of double precision. Digits may be parted by single underscores.
-/

namespace TimePattern.Toml.Number

/-- One more digit, with or without an underscore before it. -/
def nextDigit (ok : Char → Bool) : Reader Char
  | '_' :: text => Reader.satisfying ok text
  | text => Reader.satisfying ok text

/-- At least one digit, with single underscores between digits. The underscores are dropped. -/
def digits (ok : Char → Bool) : Reader (List Char) := fun text =>
  (Reader.satisfying ok text).map fun (c, text) =>
    match Reader.many (nextDigit ok) text with
    | (cs, text) => (c :: cs, text)

/-- A number in base 10 without leading zeros. -/
def naturalDigits : Reader (List Char)
  -- A zero ends the number, so that no leading zeros are read
  | '0' :: text => some (['0'], text)
  | text => digits Char.isDigit text

/-- A sign, if there is one: `true` for a minus. -/
def sign : List Char → Bool × List Char
  | '-' :: text => (true, text)
  | '+' :: text => (false, text)
  | text => (false, text)

/-- The value of digits in a base up to 16. -/
def value (base : Nat) (digits : List Char) : Nat :=
  digits.foldl (fun n c =>
    base * n + if c.isDigit then c.toNat - '0'.toNat else c.toLower.toNat - 'a'.toNat + 10) 0

/-- The integer, if it fits 64 bits. -/
def integer? (n : Int) : Option Value :=
  if -9223372036854775808 ≤ n ∧ n ≤ 9223372036854775807 then some (.integer n) else none

/-- An integer in a base other than 10, behind the two characters that announce the base. -/
def based (base : Nat) (ok : Char → Bool) : Reader Value := fun text => do
  let (ds, text) ← digits ok text
  return (← integer? (value base ds), text)

/-- The digits behind a decimal point. -/
def fraction : Reader (List Char)
  | '.' :: text => digits Char.isDigit text
  | _ => none

/-- The power of ten behind an `e`. -/
def exponent : Reader Int
  | c :: text =>
    if c = 'e' ∨ c = 'E' then do
      let (negative, text) := sign text
      let (ds, text) ← digits Char.isDigit text
      return (if negative then -(value 10 ds : Int) else value 10 ds, text)
    else none
  | [] => none

/-- Whether `significand * 10 ^ power` rounds to infinity in double precision: it reaches the
    middle between the largest finite number and the next power of two. -/
def overflows (significand : Nat) (power : Int) : Bool :=
  let bound := Nat.pow 2 1024 - Nat.pow 2 970
  let size := (Nat.toDigits 10 significand).length + power
  -- The size alone decides far from the limit, so that no huge power is ever computed
  if significand = 0 ∨ size < 300 then false
  else if size > 320 then true
  else if 0 ≤ power then significand * Nat.pow 10 power.toNat ≥ bound
  else significand ≥ bound * Nat.pow 10 (-power).toNat

/-- The part of a text before its own rest. -/
def lexeme (text rest : List Char) : List Char := text.take (text.length - rest.length)

/-- A float or an integer in base 10. A fraction or a power of ten makes it a float. -/
def decimal : Reader Value := fun text => do
  let (negative, unsigned) := sign text
  let (ds, rest) ← naturalDigits unsigned
  let float (places : List Char) (power : Int) (rest : List Char) : Option (Value × List Char) :=
    -- A number with a minus may round to infinity
    if !negative && overflows (value 10 (ds ++ places)) (power - places.length) then none
    else some (.float (lexeme text rest), rest)
  match fraction rest with
  | some (places, rest) =>
    match exponent rest with
    | some (power, rest) => float places power rest
    | none => float places 0 rest
  | none =>
    match exponent rest with
    | some (power, rest) => float [] power rest
    | none =>
      return (← integer? (if negative then -(value 10 ds : Int) else value 10 ds), rest)

/-- The floats that are no numbers or not finite. -/
def special : Reader Value := fun text =>
  let unsigned := (sign text).2
  ((Reader.exactly ['i', 'n', 'f'] unsigned) <|> (Reader.exactly ['n', 'a', 'n'] unsigned)).map
    fun (_, rest) => (.float (lexeme text rest), rest)

/-- A hexadecimal digit. -/
def isHexDigit (c : Char) : Bool := c.isDigit || ('a' ≤ c && c ≤ 'f') || ('A' ≤ c && c ≤ 'F')

/-- An octal digit. -/
def isOctalDigit (c : Char) : Bool := '0' ≤ c && c ≤ '7'

/-- A binary digit. -/
def isBinaryDigit (c : Char) : Bool := c = '0' || c = '1'

/-- A number of any kind. -/
def number : Reader Value
  | '0' :: 'x' :: text => based 16 isHexDigit text
  | '0' :: 'o' :: text => based 8 isOctalDigit text
  | '0' :: 'b' :: text => based 2 isBinaryDigit text
  | text => special text <|> decimal text

end TimePattern.Toml.Number
