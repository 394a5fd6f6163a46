import Moniker.Bindings
import Moniker.Bindings.Document
import Moniker.Capacity
import Moniker.CommandLine.Arguments
import Moniker.CommandLine.Help
import Moniker.CommandLine.Option
import Moniker.CommandLine.Refusal
import Moniker.CommandLine.Request
import Moniker.CommandLine.Run
import Moniker.CommandLine.Scan
import Moniker.Failure
import Moniker.Filter
import Moniker.Filter.Accounts
import Moniker.Filter.Blacklist
import Moniker.Filter.Chain
import Moniker.Filter.Command
import Moniker.Filter.Matching
import Moniker.Fragment
import Moniker.Fragment.Grammar
import Moniker.Fragment.Session
import Moniker.Generator
import Moniker.Host
import Moniker.Host.Tools
import Moniker.Host.Tree
import Moniker.Json.Reader
import Moniker.Json.Value
import Moniker.Json.Writer
import Moniker.LineReader
import Moniker.Main
import Moniker.Pattern.CharSet
import Moniker.Pattern.CodePoints
import Moniker.Pattern.Dialect
import Moniker.Pattern.Matcher
import Moniker.Pattern.Property
import Moniker.Pattern.Reader
import Moniker.Pattern.Tree
import Moniker.Pattern.Unicode
import Moniker.Random.ChaCha
import Moniker.Random.Chance
import Moniker.Random.Stream
import Moniker.Report
import Moniker.Report.Document
import Moniker.Report.Layout
import Moniker.Roster
import Moniker.Segment
import Moniker.Segment.Counter
import Moniker.Segment.Excerpt
import Moniker.Segment.Fixed
import Moniker.Segment.Sample
import Moniker.Settings
import Moniker.Settings.Document
import Moniker.Template
import Moniker.Text
import Moniker.Text.Blank
import Moniker.Text.Decimal
import Moniker.Text.Lines
import Moniker.Text.Quoted
import Moniker.Text.Unprintable
import Moniker.Text.Utf8
import Moniker.Tour
import Moniker.Proofs.Bindings
import Moniker.Proofs.Bindings.Assignments
import Moniker.Proofs.Capacity
import Moniker.Proofs.CommandLine.Checks
import Moniker.Proofs.CommandLine.Conclusion
import Moniker.Proofs.Counting
import Moniker.Proofs.Course
import Moniker.Proofs.Decimal
import Moniker.Proofs.Enumeration
import Moniker.Proofs.Excerpts
import Moniker.Proofs.Filter.Accounts
import Moniker.Proofs.Filter.Blacklist
import Moniker.Proofs.Filter.Calls
import Moniker.Proofs.Filter.Command
import Moniker.Proofs.Filter.Judging
import Moniker.Proofs.Filter.Register
import Moniker.Proofs.Fragment.Grammar
import Moniker.Proofs.Fragment.Queries
import Moniker.Proofs.Fragment.Reading
import Moniker.Proofs.Fragment.Spelling
import Moniker.Proofs.Generator.Collection
import Moniker.Proofs.Generator.Exhaustion
import Moniker.Proofs.Generator.Limits
import Moniker.Proofs.Generator.Minutes
import Moniker.Proofs.Generator.Misfit
import Moniker.Proofs.Generator.Phases
import Moniker.Proofs.Generator.Succession
import Moniker.Proofs.Guarded
import Moniker.Proofs.Host
import Moniker.Proofs.Json
import Moniker.Proofs.Json.Tokens
import Moniker.Proofs.Language
import Moniker.Proofs.Lifetime
import Moniker.Proofs.LineReader
import Moniker.Proofs.Numerals
import Moniker.Proofs.Pattern
import Moniker.Proofs.Report.Columns
import Moniker.Proofs.Report.Document
import Moniker.Proofs.Report.Reading
import Moniker.Proofs.Settings
import Moniker.Proofs.Settings.Layers
import Moniker.Proofs.Steps
import Moniker.Proofs.Template.Brackets
import Moniker.Proofs.Template.Compilation
import Moniker.Proofs.Template.Distinct
import Moniker.Proofs.Template.Misfit
import Moniker.Proofs.Template.Printing
import Moniker.Proofs.Template.Recasting
import Moniker.Proofs.Template.Respelling
import Moniker.Proofs.Template.Streams
import Moniker.Proofs.Text.Lines
import Moniker.Proofs.Text.Utf8
import Moniker.Proofs.Text.Words
