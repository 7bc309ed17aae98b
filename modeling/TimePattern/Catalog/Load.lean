import TimePattern.Catalog
import TimePattern.Catalog.Source
import TimePattern.Toml.Document

/-!
# Loading catalogs

A catalog is loaded from a TOML document whose table `formats` gives a pattern source under each
name. Everything else in the document is ignored. One bad source spoils the whole document.

* `Catalog.ofToml?`   the catalog in a TOML table
* `Catalog.load`      the catalog in a text
-/

namespace TimePattern

/-- The text is no TOML document, or its pattern sources cannot be used. -/
structure LoadError where

/-- The text of the diagnostic, up to the details of the fault. -/
def LoadError.message (_ : LoadError) : String := "error parsing format configuration"

namespace Catalog

/-- The key under which a date stands that is seen as a table. -/
def datetimeKey : String := "$__toml_private_datetime"

/-- The named settings in a value: the entries of a table. A date or time counts as a table
    with one entry, its text. -/
def settings? : Toml.Value → Option (List (String × Setting))
  | .table _ entries => some (Setting.ofEntries entries)
  | .datetime d => some [(datetimeKey, .text d.text)]
  | _ => none

/-- The named patterns of named settings, if each setting denotes a source. -/
def patterns? (settings : List (String × Setting)) : Option (List (String × Pattern)) :=
  settings.mapM fun (name, s) => (Source.ofSetting? s).map fun source => (name, source.pattern)

/-- The catalog in the root table of a document. Without a table of formats it is empty. -/
def ofToml? (root : Toml.Entries) : Option Catalog :=
  match root.lookup "formats" with
  | none => some empty
  | some v => ((settings? v).bind patterns?).map ofList

/-- The catalog in the text of a document. -/
def load (text : List Char) : Except LoadError Catalog :=
  match (Toml.parse text).bind ofToml? with
  | some c => .ok c
  | none => .error ⟨⟩

end Catalog

end TimePattern
