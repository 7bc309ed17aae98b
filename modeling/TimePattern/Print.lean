import TimePattern.Pattern
import TimePattern.Offset

/-!
# Printing

A pattern prints a moment directive by directive. The result can be had as one text, or be
written piece by piece into a `Sink` that holds a limited number of characters.

* `flatten_pieces`      the pieces of a directive make up its text
* `Sink.kept_write`     a sink keeps the characters that it has room for
-/

namespace TimePattern

/-- The text of a directive for a moment. An unknown offset is printed as UTC. -/
def Directive.print (m : Moment) : Directive → List Char
  | year => Decimal.ofInt 1 m.date.year.toInt
  | year4 => Decimal.ofInt 4 m.date.year.toInt
  | year2 => Decimal.ofInt 2 (m.date.year.toInt - 1900)
  | month => Decimal.ofNat 1 m.date.month.number
  | month2 => Decimal.ofNat 2 m.date.month.number
  | monthShort => m.date.month.abbreviation
  | dayOfYear => Decimal.ofInt 3 m.date.dayOfYear
  | day => Decimal.ofNat 1 m.date.day.toNat
  | day2 => Decimal.ofNat 2 m.date.day.toNat
  | hour => Decimal.ofNat 2 m.time.hour.toNat
  | minute => Decimal.ofNat 2 m.time.minute.toNat
  | second => Decimal.ofNat 2 m.time.second.toNat
  | unixSecond => Decimal.ofInt 1 m.epochSeconds
  | zoneName => []
  | offsetColon => Offset.colon m.offsetMinutes.toInt
  | offsetCompact => Offset.compact m.offsetMinutes.toInt
  | offsetMinutes => Decimal.ofInt 1 m.offsetMinutes.toInt
  | space => [' ']
  | literal c => [c]
  | custom d => d.printer m

/-- The pieces in which a directive writes its text: a sign, padding and separators are written
    apart from the digits, and a directive may write nothing at all or an empty piece. -/
def Directive.pieces (m : Moment) : Directive → List (List Char)
  | year => Decimal.piecesOfInt 1 m.date.year.toInt
  | year4 => Decimal.piecesOfInt 4 m.date.year.toInt
  | year2 => Decimal.piecesOfInt 2 (m.date.year.toInt - 1900)
  | month => Decimal.piecesOfNat 1 m.date.month.number
  | month2 => Decimal.piecesOfNat 2 m.date.month.number
  | monthShort => [m.date.month.abbreviation]
  | dayOfYear => Decimal.piecesOfInt 3 m.date.dayOfYear
  | day => Decimal.piecesOfNat 1 m.date.day.toNat
  | day2 => Decimal.piecesOfNat 2 m.date.day.toNat
  | hour => Decimal.piecesOfNat 2 m.time.hour.toNat
  | minute => Decimal.piecesOfNat 2 m.time.minute.toNat
  | second => Decimal.piecesOfNat 2 m.time.second.toNat
  | unixSecond => Decimal.piecesOfInt 1 m.epochSeconds
  | zoneName => []
  | offsetColon => Offset.colonPieces m.offsetMinutes.toInt
  | offsetCompact => Offset.compactPieces m.offsetMinutes.toInt
  | offsetMinutes => Decimal.piecesOfInt 1 m.offsetMinutes.toInt
  | space => [[' ']]
  | literal c => [[c]]
  | custom d => [d.printer m]

/-- The pieces make up the text. -/
@[simp] theorem Directive.flatten_pieces (m : Moment) (d : Directive) :
    (d.pieces m).flatten = d.print m := by
  cases d <;> simp [pieces, print]

/-- The text of a pattern for a moment. -/
def Pattern.print (p : Pattern) (m : Moment) : List Char :=
  p.directives.flatMap (·.print m)

/-- A pattern of one directive prints what the directive does. -/
theorem Pattern.print_singleton (d : Directive) (m : Moment) :
    (Pattern.mk [d]).print m = d.print m := by
  simp [Pattern.print]

/-! ## Limited sinks -/

/-- A place that takes a limited number of characters. -/
structure Sink where
  /-- How many more characters it takes. -/
  room : Nat
  /-- What it has taken so far, the latest character first. -/
  latest : List Char

namespace Sink

/-- A sink for `limit` characters that has taken nothing yet. -/
def empty (limit : Nat) : Sink := ⟨limit, []⟩

/-- What the sink has taken so far. -/
def kept (s : Sink) : List Char := s.latest.reverse

/-- Takes one more character, unless the sink is full. -/
def push? (s : Sink) (c : Char) : Option Sink :=
  match s.room with
  | 0 => none
  | room + 1 => some ⟨room, c :: s.latest⟩

/-- Takes characters until there are no more or the sink is full, and tells whether it took
    them all. -/
def write : Sink → List Char → Sink × Bool
  | s, [] => (s, true)
  | s, c :: text =>
    match s.push? c with
    | some s => s.write text
    | none => (s, false)

/-- A sink keeps the characters that it has room for. -/
theorem kept_write (s : Sink) (text : List Char) :
    (s.write text).1.kept = s.kept ++ text.take s.room := by
  induction text generalizing s with
  | nil => simp [write]
  | cons c text ih =>
    obtain ⟨room, latest⟩ := s
    -- A full sink keeps what it has; otherwise the character goes on top of it
    cases room with
    | zero => simp [write, push?]
    | succ room =>
      simp only [write, push?]
      rw [ih]
      simp [kept]

/-- All of a text is taken if there is room for it. -/
theorem write_ok_iff (s : Sink) (text : List Char) :
    (s.write text).2 = true ↔ text.length ≤ s.room := by
  induction text generalizing s with
  | nil => simp [write]
  | cons c text ih =>
    obtain ⟨room, latest⟩ := s
    cases room with
    | zero => simp [write, push?]
    | succ room => simp [write, push?, ih]

/-- Writes pieces one after the other, up to the first one for which there is no room. Tells
    whether there was room for all. -/
def writeAll : Sink → List (List Char) → Sink × Bool
  | s, [] => (s, true)
  | s, piece :: pieces =>
    match s.write piece with
    | (s, true) => s.writeAll pieces
    | (s, false) => (s, false)

end Sink

/-- Writes a moment into a sink, directive after directive, up to the first one for which there
    is no room. Tells whether there was room for all. -/
def Sink.print (m : Moment) : Sink → List Directive → Sink × Bool
  | s, [] => (s, true)
  | s, d :: ds =>
    match s.writeAll (d.pieces m) with
    | (s, true) => s.print m ds
    | (s, false) => (s, false)

/-- Prints at most `limit` characters and tells whether that was all of the text. -/
def Pattern.printBounded (p : Pattern) (m : Moment) (limit : Nat) : List Char × Bool :=
  let (sink, ok) := (Sink.empty limit).print m p.directives
  (sink.kept, ok)

end TimePattern
