import TimePattern.Catalog
import TimePattern.Catalog.Source

/-!
# The built-in catalog

The patterns that are there without any configuration.

* `builtin`       the catalog
* `builtinText`   a document that configures the same
-/

namespace TimePattern.Catalog

/-- The sources of the built-in patterns. -/
def builtinSources : List (String × Source) :=
  [("iso8601-date", .preset .isoDate),
   ("iso8601-date-and-time", .preset .isoDateAndTime),
   ("date", .mnemonic ['Y', 'Y', 'Y', 'Y', '-', 'M', 'M', '-', 'D', 'D']),
   ("time", .mnemonic ['h', ':', 'm', 'm', ':', 's']),
   ("compact", .mnemonic ['Y', 'Y', 'Y', 'Y', 'M', 'M', 'D', 'D', 'T', 'h', 'm', 'm', 's']),
   ("epoch", .mnemonic ['E', 'P', 'O', 'C', 'H']),
   ("offset", .mnemonic ['Z', 'Z', ':', 'Z', 'Z']),
   -- Month names and spaces have no reading rule, so this one can only be printed.
   ("syslog", .mnemonic ['M', 'o', 'n', ' ', 'D', 'D', ' ', 'h', ':', 'm', 'm', ':', 's'])]

/-- The patterns that are there without any configuration. -/
def builtin : Catalog :=
  ofList (builtinSources.map fun (name, source) => (name, source.pattern))

/-- The lines of a document that configures the built-in patterns. -/
def builtinLines : List String :=
  ["",
   "[formats]",
   "iso8601-date = \x7b preset = \"iso8601-date\" \x7d",
   "iso8601-date-and-time = \x7b preset = \"iso8601-date-and-time\" \x7d",
   "date = \"YYYY-MM-DD\"",
   "time = \"h:mm:s\"",
   "compact = \"YYYYMMDDThmms\"",
   "epoch = \"EPOCH\"",
   "offset = \"ZZ:ZZ\"",
   "# Print only: month names and spaces have no parsing rule",
   "syslog = \"Mon DD h:mm:s\""]

/-- The document as one text. The line that says what it is for comes in front of it. -/
def builtinText : List Char := builtinLines.flatMap fun line => line.toList ++ ['\n']

end TimePattern.Catalog
