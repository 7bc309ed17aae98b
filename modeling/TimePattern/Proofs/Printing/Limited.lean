import TimePattern.Print

/-!
# Printing into limited sinks

A pattern reaches a sink in many pieces, and the sink can become full inside any of them. Since the
first piece without room ends the printing, it does not matter how the text is cut into pieces: the
sink is left as if the whole text had been written at once.

## Key results

- `Sink.write_append`: a text is written as its front and then the rest
- `Sink.writeAll_eq_write` / `Sink.print_eq_write`: pieces and directives are written as one text
- `Pattern.printBounded_eq_take`: what is kept of a pattern's text, and when it is all of it
-/

namespace TimePattern

namespace Sink

/-- Where the front of a text finds no room, the rest is not tried. -/
theorem write_append (s : Sink) (front rest : List Char) :
    s.write (front ++ rest) =
      match s.write front with
      | (s, true) => s.write rest
      | (s, false) => (s, false) := by
  induction front generalizing s with
  | nil => rfl
  | cons c front ih =>
    rw [List.cons_append, write, write]
    -- A full sink takes no character of either text; otherwise both go on in the same sink
    cases s.push? c with
    | none => rfl
    | some s => exact ih s

/-- Writing pieces is writing the text that they make up, wherever it is cut. -/
theorem writeAll_eq_write (s : Sink) (pieces : List (List Char)) :
    s.writeAll pieces = s.write pieces.flatten := by
  induction pieces generalizing s with
  | nil => rfl
  | cons piece pieces ih =>
    rw [writeAll, List.flatten_cons, write_append]
    -- Only a piece that was taken in full leaves a sink to go on with
    obtain ⟨s', room⟩ := s.write piece
    cases room with
    | true => exact ih s'
    | false => rfl

/-- Directives write the text that they print, one after the other. -/
theorem print_eq_write (m : Moment) (s : Sink) (ds : List Directive) :
    s.print m ds = s.write (ds.flatMap (·.print m)) := by
  induction ds generalizing s with
  | nil => rfl
  | cons d ds ih =>
    -- A directive hands over its text in pieces, which count as the whole
    rw [print, writeAll_eq_write, Directive.flatten_pieces, List.flatMap_cons, write_append]
    obtain ⟨s', room⟩ := s.write (d.print m)
    cases room with
    | true => exact ih s'
    | false => rfl

end Sink

/-- Printed into a sink with room for `limit` characters, a pattern leaves just the first `limit`
    characters of its text there, and tells that there was room for all if the text is no longer
    than that. -/
theorem Pattern.printBounded_eq_take (p : Pattern) (m : Moment) (limit : Nat) :
    (p.printBounded m limit).1 = (p.print m).take limit ∧
      ((p.printBounded m limit).2 = true ↔ (p.print m).length ≤ limit) := by
  have hprint : (Sink.empty limit).print m p.directives = (Sink.empty limit).write (p.print m) :=
    Sink.print_eq_write m (Sink.empty limit) p.directives
  simp only [printBounded, hprint]
  constructor
  · rw [Sink.kept_write]
    rfl
  · exact Sink.write_ok_iff (Sink.empty limit) (p.print m)

/-- The sink becomes full behind the sign and one zero of the year. A directive that prints nothing
    does not need room. -/
example :
    let m : Moment := ⟨0, ⟨-7, .may, 1⟩, default, none⟩
    (Pattern.mk [.year4, .zoneName, .month]).printBounded m 2 = ("-0".toList, false) ∧
      (Pattern.mk [.year4, .zoneName]).printBounded m 4 = ("-007".toList, true) := ⟨rfl, rfl⟩

end TimePattern
