import NoteSearch.Batch
import NoteSearch.Character.Blank
import NoteSearch.Character.CaseClass
import NoteSearch.Character.Cased
import NoteSearch.Character.Digit
import NoteSearch.Character.Fold
import NoteSearch.Character.Lower
import NoteSearch.Character.Name
import NoteSearch.Character.Printable
import NoteSearch.Character.Ranges
import NoteSearch.Character.Upper
import NoteSearch.Character.Word
import NoteSearch.Command.Arguments
import NoteSearch.Command.Document
import NoteSearch.Command.Help
import NoteSearch.Command.Item
import NoteSearch.Command.Misuse
import NoteSearch.Command.Run
import NoteSearch.Command.Switch
import NoteSearch.Failure
import NoteSearch.Files.Fault
import NoteSearch.Files.Path
import NoteSearch.Files.Tree
import NoteSearch.FirstSeen
import NoteSearch.Json.Basic
import NoteSearch.Json.Printer
import NoteSearch.Log.Config
import NoteSearch.Log.Entry
import NoteSearch.Log.Level
import NoteSearch.Log.Literal
import NoteSearch.Log.Loggers
import NoteSearch.Log.Message
import NoteSearch.Log.Timestamp
import NoteSearch.Log.Value
import NoteSearch.Main
import NoteSearch.Match.Basic
import NoteSearch.Match.Cache
import NoteSearch.Match.Finder
import NoteSearch.Match.Scan
import NoteSearch.Match.TermSet
import NoteSearch.Metrics
import NoteSearch.Note.Basic
import NoteSearch.Note.Reading
import NoteSearch.Number.Binary64
import NoteSearch.Number.Places
import NoteSearch.Number.Reading
import NoteSearch.Number.Shortest
import NoteSearch.Options.Basic
import NoteSearch.Options.Reading
import NoteSearch.Pattern.Escape
import NoteSearch.Pattern.Matcher
import NoteSearch.Pattern.Reader
import NoteSearch.Pattern.Syntax
import NoteSearch.Proofs.Batch
import NoteSearch.Proofs.Character.Word
import NoteSearch.Proofs.Command.Items
import NoteSearch.Proofs.Command.Literal
import NoteSearch.Proofs.Command.Order
import NoteSearch.Proofs.Command.Progress
import NoteSearch.Proofs.FirstSeen
import NoteSearch.Proofs.Json.Printer
import NoteSearch.Proofs.Log.Entry
import NoteSearch.Proofs.Log.Length
import NoteSearch.Proofs.Log.Redaction
import NoteSearch.Proofs.Log.Writing
import NoteSearch.Proofs.Match.Inclusion
import NoteSearch.Proofs.Match.Literal
import NoteSearch.Proofs.Match.Order
import NoteSearch.Proofs.Match.Plain
import NoteSearch.Proofs.Match.Recency
import NoteSearch.Proofs.Match.Scan
import NoteSearch.Proofs.Match.TermSet
import NoteSearch.Proofs.Match.Transparency
import NoteSearch.Proofs.Number.Order
import NoteSearch.Proofs.Options
import NoteSearch.Proofs.Pattern.Repetition
import NoteSearch.Proofs.Query.Composition
import NoteSearch.Proofs.Query.RoundTrip
import NoteSearch.Proofs.Query.Shape
import NoteSearch.Proofs.Query.Spacing
import NoteSearch.Proofs.Query.WellFormed
import NoteSearch.Proofs.Result
import NoteSearch.Proofs.Segment.Cluster
import NoteSearch.Proofs.Segment.Components
import NoteSearch.Proofs.Segment.Layout
import NoteSearch.Proofs.Settings
import NoteSearch.Proofs.Snippet.Edges
import NoteSearch.Proofs.Snippet.Group
import NoteSearch.Proofs.Snippet.Highlights
import NoteSearch.Proofs.Snippet.Layout
import NoteSearch.Proofs.Snippet.Length
import NoteSearch.Proofs.Snippet.Partition
import NoteSearch.Proofs.Snippet.Source
import NoteSearch.Proofs.Snippet.Stepwise
import NoteSearch.Proofs.Snippet.Sweep
import NoteSearch.Proofs.Snippet.Ties
import NoteSearch.Proofs.Snippet.Window
import NoteSearch.Proofs.Snippet.Words
import NoteSearch.Proofs.Suggestion.Bound
import NoteSearch.Proofs.Suggestion.Completion
import NoteSearch.Proofs.Suggestion.Correction
import NoteSearch.Proofs.Suggestion.Distance
import NoteSearch.Proofs.Suggestion.Edit
import NoteSearch.Proofs.Suggestion.Length
import NoteSearch.Proofs.Suggestion.Ranking
import NoteSearch.Proofs.Suggestion.Source
import NoteSearch.Proofs.Suggestion.Words
import NoteSearch.Proofs.Text.Hex
import NoteSearch.Proofs.Text.Lower
import NoteSearch.Proofs.Text.Pieces
import NoteSearch.Proofs.Text.Slice
import NoteSearch.Proofs.Text.Words
import NoteSearch.Proofs.Trace.Attribution
import NoteSearch.Proofs.Trace.Correlation
import NoteSearch.Proofs.Trace.Run
import NoteSearch.Query.Basic
import NoteSearch.Query.Parser
import NoteSearch.Query.Printer
import NoteSearch.Query.Token
import NoteSearch.Segment
import NoteSearch.Settings.Basic
import NoteSearch.Settings.EnvFile
import NoteSearch.Snippet.Basic
import NoteSearch.Snippet.Build
import NoteSearch.Snippet.Group
import NoteSearch.Snippet.Window
import NoteSearch.Suggestion.Completion
import NoteSearch.Suggestion.Correction
import NoteSearch.Suggestion.Distance
import NoteSearch.Text.Basic
import NoteSearch.Text.Case
import NoteSearch.Text.Quoted
import NoteSearch.Text.Utf8
import NoteSearch.Text.Wrapped
import NoteSearch.Trace.Attributes
import NoteSearch.Trace.Batch
import NoteSearch.Trace.Context
import NoteSearch.Trace.Resource
import NoteSearch.Trace.Span
import NoteSearch.Validation.Field
import NoteSearch.Validation.Issue
