import CatalogLint.Text.Basic
import CatalogLint.Text.Blank
import CatalogLint.Text.Lines
import CatalogLint.Text.Json
import CatalogLint.Text.Style
import CatalogLint.Number.Decimal
import CatalogLint.Number.Binary64
import CatalogLint.Catalog.Line
import CatalogLint.Catalog.Metadata
import CatalogLint.Catalog.Message
import CatalogLint.Catalog.Obsolete
import CatalogLint.Catalog.Tally
import CatalogLint.CodePoint.Boundaries
import CatalogLint.CodePoint.Age
import CatalogLint.CodePoint.Break
import CatalogLint.CodePoint.Category
import CatalogLint.CodePoint.Script
import CatalogLint.CodePoint.Binary
import CatalogLint.CodePoint.Folding
import CatalogLint.CodePoint.Property
import CatalogLint.Pattern.Basic
import CatalogLint.Pattern.Scanner
import CatalogLint.Pattern.Class
import CatalogLint.Pattern.Reader
import CatalogLint.Order.Insertion
import CatalogLint.Disk.Path
import CatalogLint.Disk.Basic
import CatalogLint.Disk.Error
import CatalogLint.Disk.Resolve
import CatalogLint.Disk.Shared
import CatalogLint.Disk.Replace
import CatalogLint.Ignore.Glob
import CatalogLint.Ignore.Rules
import CatalogLint.Disk.Find
import CatalogLint.Report.Diagnostic
import CatalogLint.Report.Basic
import CatalogLint.Rule.Inspection
import CatalogLint.Rule.Threshold
import CatalogLint.Rule.Translation
import CatalogLint.Rule.HeaderSpec
import CatalogLint.Rule.MetadataDemand
import CatalogLint.Rule.CommentStart
import CatalogLint.Rule.Limits
import CatalogLint.Rule.Basic
import CatalogLint.Rule.Options
import CatalogLint.Batch.Run
import CatalogLint.Batch.Statistics
import CatalogLint.Command.Grammar
import CatalogLint.Command.Usage
import CatalogLint.Command.Arguments
import CatalogLint.Command.Invocation
import CatalogLint.Command.Program
import CatalogLint.Main
import CatalogLint.Proofs.Catalog.Line
import CatalogLint.Proofs.Catalog.Rendition
import CatalogLint.Proofs.Rule.Numbers
import CatalogLint.Proofs.Catalog.Cursor
import CatalogLint.Proofs.Catalog.Partition
import CatalogLint.Proofs.Rule.Counts
import CatalogLint.Proofs.Disk.Entries
import CatalogLint.Proofs.Disk.Way
import CatalogLint.Proofs.Disk.Place
import CatalogLint.Proofs.Disk.Staging
import CatalogLint.Proofs.Disk.Replacement
import CatalogLint.Proofs.Order.Sorting
import CatalogLint.Proofs.Text.Pieces
import CatalogLint.Proofs.Disk.PathOrder
import CatalogLint.Proofs.Disk.Discovery
import CatalogLint.Proofs.Catalog.Metadata
import CatalogLint.Proofs.Catalog.Obsolete
import CatalogLint.Proofs.Catalog.Removal
import CatalogLint.Proofs.Number.Rounding
import CatalogLint.Proofs.Number.Arithmetic
import CatalogLint.Proofs.Number.Conversion
import CatalogLint.Proofs.Number.Decimal
import CatalogLint.Proofs.Number.Numeral
import CatalogLint.Proofs.Rule.Threshold
import CatalogLint.Proofs.Rule.Percentage
import CatalogLint.Proofs.Rule.CommentStart
import CatalogLint.Proofs.Rule.Reapplication
import CatalogLint.Proofs.Batch.Contents
import CatalogLint.Proofs.Batch.Removal
import CatalogLint.Proofs.Text.Endings
import CatalogLint.Proofs.Catalog.Endings
import CatalogLint.Proofs.Rule.Endings
import CatalogLint.Proofs.Catalog.Alike
import CatalogLint.Proofs.Rule.Alike
import CatalogLint.Proofs.Rule.CommentFrame
import CatalogLint.Proofs.Batch.Sequence
import CatalogLint.Proofs.Batch.DryRun
import CatalogLint.Proofs.Disk.Tree
import CatalogLint.Proofs.Batch.Independence
import CatalogLint.Proofs.Rule.Bounds
import CatalogLint.Proofs.Batch.Coherence
import CatalogLint.Proofs.Catalog.Extent
import CatalogLint.Proofs.Rule.Untranslated
import CatalogLint.Proofs.Disk.Volume
import CatalogLint.Proofs.Disk.Links
import CatalogLint.Proofs.Batch.Passing
import CatalogLint.Proofs.Command.OneMore
import CatalogLint.Proofs.Command.Quiet
import CatalogLint.Proofs.Catalog.Flags
import CatalogLint.Proofs.Catalog.Fields
import CatalogLint.Proofs.Catalog.Written
import CatalogLint.Proofs.Rule.HeaderSpec
import CatalogLint.Proofs.Rule.HeaderEntry
import CatalogLint.Proofs.Rule.Insertion
import CatalogLint.Proofs.Command.HeaderOptions
import CatalogLint.Proofs.Disk.AllOrNothing
import CatalogLint.Proofs.Pattern.Extension
import CatalogLint.Proofs.Pattern.Scanner
import CatalogLint.Proofs.Pattern.Class
import CatalogLint.Proofs.Pattern.Reader
import CatalogLint.Proofs.Rule.Anchoring
import CatalogLint.Proofs.Text.Splitting
import CatalogLint.Proofs.Catalog.Location
import CatalogLint.Proofs.Rule.Convergence
import CatalogLint.Proofs.Rule.Wording
import CatalogLint.Proofs.Command.HumanOutput
import CatalogLint.Proofs.Catalog.Runs
import CatalogLint.Proofs.Catalog.Bar
