import TimePattern.Toml.Value

/-!
# Building TOML tables

A document adds to its tables line by line. A dotted key walks through tables that dotted keys
made, a header through any table but an inline one, and both make the tables that they miss.
Nothing is ever defined twice.

* `assign`      a value under a dotted key
* `reach`       a change at the end of a header's path
-/

namespace TimePattern.Toml.Entries

/-- Puts a value under a key, in the place of the one that is there. -/
def set (key : String) (v : Value) : Entries → Entries
  | [] => [(key, v)]
  | (k, w) :: rest => if k = key then (k, v) :: rest else (k, w) :: set key v rest

/-- Gives a value to a dotted key. The tables on its way must not have been named by a header,
    nor may the value come to lie directly in a table that a header passed through or made. -/
def assign (v : Value) : List String → Entries → Option Entries
  | [], _ => none
  | [key], entries =>
    match entries.lookup key with
    | none => some (entries ++ [(key, v)])
    | some _ => none
  | key :: next :: path, entries =>
    match entries.lookup key with
    | none => (assign v (next :: path) []).map fun es => entries ++ [(key, .table .dotted es)]
    | some (.table .dotted es) =>
      (assign v (next :: path) es).map fun es => entries.set key (.table .dotted es)
    | some (.table .implied es) =>
      if path = [] then none
      else (assign v (next :: path) es).map fun es => entries.set key (.table .implied es)
    | some (.tables earlier last) =>
      if path = [] then none
      else (assign v (next :: path) last).map fun es => entries.set key (.tables earlier es)
    | some _ => none

/-- Changes what lies at the end of a header's path. The tables on the way are made if they are
    missing; an array of tables is entered through its last one. -/
def reach (change : Option Value → Option Value) : List String → Entries → Option Entries
  | [], _ => none
  | [key], entries => (change (entries.lookup key)).map fun v => entries.set key v
  | key :: next :: path, entries =>
    match entries.lookup key with
    | none =>
      (reach change (next :: path) []).map fun es => entries.set key (.table .implied es)
    | some (.table origin es) =>
      if origin = .inline then none
      else (reach change (next :: path) es).map fun es => entries.set key (.table origin es)
    | some (.tables earlier last) =>
      (reach change (next :: path) last).map fun es => entries.set key (.tables earlier es)
    | some _ => none

/-- The assignments of a section, one after the other. -/
def assignAll (assignments : List (List String × Value)) (entries : Entries) : Option Entries :=
  assignments.foldlM (fun es (path, v) => es.assign v path) entries

/-- The table of a header in single brackets: a new one, or one that other headers have passed
    through but none has named. -/
def headed (assignments : List (List String × Value)) : Option Value → Option Value
  | none => (assignAll assignments []).map (.table .header ·)
  | some (.table .implied es) => (assignAll assignments es).map (.table .header ·)
  | some _ => none

/-- The array of tables of a header in double brackets, with one more table in it. -/
def appended (assignments : List (List String × Value)) : Option Value → Option Value
  | none => (assignAll assignments []).map (.tables [] ·)
  | some (.tables earlier last) =>
    -- The last table so far joins the earlier ones
    (assignAll assignments []).map (.tables (earlier ++ [.table .header last]) ·)
  | some _ => none

end TimePattern.Toml.Entries
