import LlmTxt.Main
import LlmTxt.Proofs.Report.Sorting
import LlmTxt.Proofs.Validation.Stages
import LlmTxt.Proofs.Settings.Verdict
import LlmTxt.Proofs.Document.Blocks
import LlmTxt.Proofs.Source
import LlmTxt.Proofs.Text.Pieces
import LlmTxt.Proofs.Document.Places
import LlmTxt.Proofs.Outline.Places
import LlmTxt.Proofs.Symbol.Declaration
import LlmTxt.Proofs.Symbol.Places
import LlmTxt.Proofs.Example.Positions
import LlmTxt.Proofs.Example.Places
import LlmTxt.Proofs.Frontmatter.Places
import LlmTxt.Proofs.Section.Places
import LlmTxt.Proofs.Validation.Locations
import LlmTxt.Proofs.Symbol.Header
import LlmTxt.Proofs.Symbol.Failure
import LlmTxt.Proofs.Validation.Outcome
import LlmTxt.Proofs.Name
import LlmTxt.Proofs.Document.Passages
import LlmTxt.Proofs.Manual.Text
import LlmTxt.Proofs.Heading
import LlmTxt.Proofs.Manual.Headings
import LlmTxt.Proofs.Manual.Passages
import LlmTxt.Proofs.Manual.Document
import LlmTxt.Proofs.Manual.Bullets
import LlmTxt.Proofs.Manual.Index
import LlmTxt.Proofs.Manual.Symbols
import LlmTxt.Proofs.Manual.Modules
import LlmTxt.Proofs.Example.Import
import LlmTxt.Proofs.Example.Resolution
import LlmTxt.Proofs.Manual.Examples
import LlmTxt.Proofs.Manual.RoundTrip
import LlmTxt.Proofs.CrossReference.Exchange
import LlmTxt.Proofs.Document.Tiling
import LlmTxt.Proofs.Document.Standing
import LlmTxt.Proofs.Symbol.ModuleName
import LlmTxt.Proofs.Symbol.ModuleReaders
import LlmTxt.Proofs.Document.Masking
import LlmTxt.Proofs.Document.Lockstep
import LlmTxt.Proofs.Section.Masking
import LlmTxt.Proofs.Symbol.Masking
import LlmTxt.Proofs.Validation.Masking
import LlmTxt.Proofs.Source.Joining
import LlmTxt.Proofs.Document.Relocation
import LlmTxt.Proofs.Document.Joining
import LlmTxt.Proofs.Document.Code
import LlmTxt.Proofs.Document.Fatal
import LlmTxt.Proofs.Validation.Fatal
import LlmTxt.Proofs.Document.Fronted
import LlmTxt.Proofs.Section.Front
import LlmTxt.Proofs.Validation.Frontmatter
import LlmTxt.Proofs.Batch.Scheduling
import LlmTxt.Proofs.Example.Allowed
import LlmTxt.Proofs.Settings.Allowing
import LlmTxt.Proofs.Validation.Grading
import LlmTxt.Proofs.Text.Encoding
import LlmTxt.Proofs.Terminal.Width
import LlmTxt.Proofs.Terminal.Wrap
import LlmTxt.Proofs.Terminal.Table
import LlmTxt.Proofs.Terminal.Markup
import LlmTxt.Proofs.Terminal.Screen
import LlmTxt.Proofs.Report.Printing
import LlmTxt.Proofs.CommandLine.Formats
import LlmTxt.Proofs.Source.Endings
import LlmTxt.Proofs.Document.Offsets
import LlmTxt.Proofs.Validation.Endings
import LlmTxt.Proofs.Section.Unknown
import LlmTxt.Proofs.Document.Trailing
import LlmTxt.Proofs.Validation.Trailing
import LlmTxt.Proofs.Settings.Variables
import LlmTxt.Proofs.Settings.Names
import LlmTxt.Proofs.Settings.File
import LlmTxt.Proofs.Settings.Layers
import LlmTxt.Proofs.Settings.Failure
import LlmTxt.Proofs.CommandLine.Loading
import LlmTxt.Proofs.Example.Known
import LlmTxt.Proofs.Example.OwnName
import LlmTxt.Proofs.Symbol.Scope
import LlmTxt.Proofs.Symbol.Exact
import LlmTxt.Proofs.Outline.Spans
import LlmTxt.Proofs.Outline.Bullets
import LlmTxt.Proofs.Outline.Reading
import LlmTxt.Proofs.Outline.Entries
import LlmTxt.Proofs.Outline.Written
import LlmTxt.Proofs.Outline.Clean
import LlmTxt.Proofs.Example.Statements
import LlmTxt.Proofs.Example.Placement
import LlmTxt.Proofs.Example.Bindings
import LlmTxt.Proofs.Example.Blanking
import LlmTxt.Proofs.Text.Lower
import LlmTxt.Proofs.Section.Titles
import LlmTxt.Proofs.Section.Recognised
import LlmTxt.Proofs.CrossReference.Alike
import LlmTxt.Proofs.Section.Conforming
import LlmTxt.Proofs.Frontmatter.Recovery
import LlmTxt.Proofs.Frontmatter.Values
import LlmTxt.Proofs.Report.Assembly
import LlmTxt.Proofs.Example.Documented
import LlmTxt.Proofs.Steps
import LlmTxt.Proofs.Distinct
import LlmTxt.Proofs.Section.Late
import LlmTxt.Proofs.Section.Flagged
import LlmTxt.Proofs.Validation.Wording
import LlmTxt.Proofs.FileTree
import LlmTxt.Proofs.Discovery
import LlmTxt.Proofs.Version.Grammar
import LlmTxt.Proofs.Version.Separators
import LlmTxt.Proofs.Version.Canonical
