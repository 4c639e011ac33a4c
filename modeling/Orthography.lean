import Orthography.Analyzer.Basic
import Orthography.Analyzer.Kind
import Orthography.Analyzer.Registry
import Orthography.Analyzer.Spelling
import Orthography.Checker
import Orthography.CommandLine.Arguments
import Orthography.CommandLine.Command
import Orthography.CommandLine.FileRun
import Orthography.CommandLine.Reading
import Orthography.CommandLine.Run
import Orthography.Configuration.Basic
import Orthography.Configuration.Layers
import Orthography.Configuration.Reader
import Orthography.Configuration.Settings
import Orthography.Document
import Orthography.Editor.Feature
import Orthography.Editor.Message
import Orthography.Editor.Service
import Orthography.Failure
import Orthography.Files.Check
import Orthography.Files.Collect
import Orthography.Files.Fix
import Orthography.Files.Interactive
import Orthography.Files.Menu
import Orthography.Json.Decode
import Orthography.Json.Form
import Orthography.Json.Number
import Orthography.Json.Printer
import Orthography.Json.Value
import Orthography.Level
import Orthography.Lexicon.Archive
import Orthography.Lexicon.Basic
import Orthography.Lexicon.Entry
import Orthography.Lexicon.EntryText
import Orthography.Lexicon.Identifier
import Orthography.Lexicon.KeyMap
import Orthography.Main
import Orthography.Maintenance
import Orthography.Number.Binary64
import Orthography.Number.Decimal
import Orthography.Number.Shortest
import Orthography.Pattern.Brackets
import Orthography.Pattern.Category
import Orthography.Pattern.Escape
import Orthography.Pattern.Expr
import Orthography.Pattern.Flags
import Orthography.Pattern.Folding
import Orthography.Pattern.Property
import Orthography.Pattern.PropertyFromG
import Orthography.Pattern.PropertyName
import Orthography.Pattern.PropertyToF
import Orthography.Pattern.Reader
import Orthography.Pattern.Script
import Orthography.Pattern.ScriptExtension
import Orthography.Pattern.Search
import Orthography.Pattern.WordClass
import Orthography.Placement
import Orthography.Proofs.Addition
import Orthography.Proofs.Analyzer.Actions
import Orthography.Proofs.Analyzer.Completions
import Orthography.Proofs.Analyzer.Isolation
import Orthography.Proofs.Analyzer.Registration
import Orthography.Proofs.Capitals
import Orthography.Proofs.Checker
import Orthography.Proofs.CommandLine.Check
import Orthography.Proofs.Completion
import Orthography.Proofs.Configuration.Layers
import Orthography.Proofs.Detached
import Orthography.Proofs.Diagnostics
import Orthography.Proofs.Document
import Orthography.Proofs.Editor.Command
import Orthography.Proofs.Endings
import Orthography.Proofs.Files.Check
import Orthography.Proofs.Files.Edit
import Orthography.Proofs.Files.Fix
import Orthography.Proofs.Files.NearMatches
import Orthography.Proofs.Files.Passes
import Orthography.Proofs.Files.Surroundings
import Orthography.Proofs.Firsts
import Orthography.Proofs.Guarded.Checker
import Orthography.Proofs.Guarded.Distance
import Orthography.Proofs.Guarded.Files
import Orthography.Proofs.Guarded.Lexicon
import Orthography.Proofs.Guarded.Request
import Orthography.Proofs.Guarded.Session
import Orthography.Proofs.Guarded.Text
import Orthography.Proofs.Guarded.Token
import Orthography.Proofs.Json.Depth
import Orthography.Proofs.Json.Fraction
import Orthography.Proofs.Json.Printed
import Orthography.Proofs.Json.Quoted
import Orthography.Proofs.Json.Readable
import Orthography.Proofs.Json.Spelling
import Orthography.Proofs.KeyMap
import Orthography.Proofs.Keys
import Orthography.Proofs.Lexicon.Coverage
import Orthography.Proofs.Lexicon.FileText
import Orthography.Proofs.Lexicon.Glossary
import Orthography.Proofs.Lexicon.HeadWord
import Orthography.Proofs.Lexicon.History
import Orthography.Proofs.Lexicon.Identified
import Orthography.Proofs.Lexicon.Identifier
import Orthography.Proofs.Lexicon.Inverse
import Orthography.Proofs.Lexicon.Likeness
import Orthography.Proofs.Lexicon.Outcome
import Orthography.Proofs.Lexicon.Reachable
import Orthography.Proofs.Lexicon.Refinement
import Orthography.Proofs.Lexicon.Reload
import Orthography.Proofs.Lexicon.Removal
import Orthography.Proofs.Lexicon.Rollback
import Orthography.Proofs.Lexicon.RoundTrip
import Orthography.Proofs.Lexicon.Union
import Orthography.Proofs.Offers
import Orthography.Proofs.Pattern.Matches
import Orthography.Proofs.Pattern.Search
import Orthography.Proofs.Ranking
import Orthography.Proofs.Recheck
import Orthography.Proofs.Report.Colour
import Orthography.Proofs.Report.EscapeSequence
import Orthography.Proofs.Report.Figures
import Orthography.Proofs.Session
import Orthography.Proofs.Storage.Disk
import Orthography.Proofs.Storage.Path
import Orthography.Proofs.SurfaceForm
import Orthography.Proofs.Text.Boundary
import Orthography.Proofs.Text.Bytes
import Orthography.Proofs.Text.Columns
import Orthography.Proofs.Text.Faithful
import Orthography.Proofs.Text.Replacement
import Orthography.Proofs.Text.Segment
import Orthography.Proofs.Text.Token
import Orthography.Proofs.Unicode.CaseMapping
import Orthography.Proofs.Unicode.CodeRun
import Orthography.Proofs.Unicode.SmallForm
import Orthography.Proofs.Word.Distance
import Orthography.Proofs.Word.Edges
import Orthography.Proofs.Word.Metric
import Orthography.Proofs.Word.Reference
import Orthography.Proofs.WordList
import Orthography.Report.Finding
import Orthography.Report.Format
import Orthography.Report.Json
import Orthography.Report.Style
import Orthography.Report.Text
import Orthography.Session
import Orthography.Storage.Disk
import Orthography.Storage.Path
import Orthography.Suggestion
import Orthography.Text.Bytes
import Orthography.Text.Columns
import Orthography.Text.Segment
import Orthography.Text.Token
import Orthography.Toml.Number
import Orthography.Toml.Quoted
import Orthography.Toml.Reader
import Orthography.Toml.Value
import Orthography.Unicode.Alphabetic
import Orthography.Unicode.CaseMapping
import Orthography.Unicode.CodeRun
import Orthography.Unicode.LetterCase
import Orthography.Unicode.Numeric
import Orthography.Unicode.Pictographic
import Orthography.Unicode.WhiteSpace
import Orthography.Unicode.WordBreak
import Orthography.Uri
import Orthography.Word.Distance
import Orthography.Word.Exempt
import Orthography.Word.Key
import Orthography.Word.Punctuation
import Orthography.Word.Reference
