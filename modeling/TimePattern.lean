import TimePattern.Catalog.Edit
import TimePattern.Mnemonic
import TimePattern.Print
import TimePattern.Read
import TimePattern.Stamp.Clock
import TimePattern.Proofs.Calendar.CivilTime
import TimePattern.Proofs.Calendar.CountedDays
import TimePattern.Proofs.Calendar.Ticking
import TimePattern.Proofs.Catalog.BuiltinDocument
import TimePattern.Proofs.Catalog.Loading
import TimePattern.Proofs.Catalog.Runs
import TimePattern.Proofs.Field.Digits
import TimePattern.Proofs.Field.OffsetText
import TimePattern.Proofs.Field.PlaceValue
import TimePattern.Proofs.Field.WrittenNumber
import TimePattern.Proofs.Mnemonic.Concatenation
import TimePattern.Proofs.Mnemonic.Escapes
import TimePattern.Proofs.Mnemonic.LongestMatch
import TimePattern.Proofs.Mnemonic.Rendered
import TimePattern.Proofs.Printing.CompactText
import TimePattern.Proofs.Printing.DayOfYear
import TimePattern.Proofs.Printing.Limited
import TimePattern.Proofs.Reading.Composition
import TimePattern.Proofs.Reading.EpochText
import TimePattern.Proofs.Reading.Failure
import TimePattern.Proofs.Reading.Finds
import TimePattern.Proofs.Reading.FixedWidth
import TimePattern.Proofs.Reading.Gathered
import TimePattern.Proofs.Reading.IsoSpelling
import TimePattern.Proofs.Reading.IsoText
import TimePattern.Proofs.Reading.Lookahead
import TimePattern.Proofs.Reading.PrintedOffset
import TimePattern.Proofs.Reading.PrintedText
import TimePattern.Proofs.Reading.Range
import TimePattern.Proofs.Stamp.Chronology
import TimePattern.Proofs.Stamp.Representable
import TimePattern.Proofs.Stamp.Snapshot
import TimePattern.Proofs.Stamp.Validated
import TimePattern.Proofs.Stamp.WordArithmetic
import TimePattern.Proofs.Text.Lexicographic
import TimePattern.Proofs.Toml.DistinctKeys
