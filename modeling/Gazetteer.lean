import Gazetteer.Bounds
import Gazetteer.CommandLine.Command
import Gazetteer.CommandLine.Outcome
import Gazetteer.Config.Basic
import Gazetteer.Config.Document
import Gazetteer.Config.Reading
import Gazetteer.Coordinate
import Gazetteer.Data.SortedMap
import Gazetteer.Digest
import Gazetteer.Display.Basic
import Gazetteer.Display.Rules
import Gazetteer.Error
import Gazetteer.Files.Path
import Gazetteer.Files.Tree
import Gazetteer.Geometry.Basic
import Gazetteer.Geometry.Reading
import Gazetteer.Index.Basic
import Gazetteer.Index.Event
import Gazetteer.Index.Reconciliation
import Gazetteer.Indexer.Basic
import Gazetteer.Indexer.Session
import Gazetteer.Json.Basic
import Gazetteer.Json.Failure
import Gazetteer.Json.Reader
import Gazetteer.Json.Writer
import Gazetteer.Layer.Basic
import Gazetteer.Layer.Building
import Gazetteer.Link.Graph
import Gazetteer.Link.Target
import Gazetteer.Main
import Gazetteer.Markdown.Block
import Gazetteer.Markdown.Entity
import Gazetteer.Markdown.Html
import Gazetteer.Markdown.Inline
import Gazetteer.Markdown.Line
import Gazetteer.Markdown.Mark
import Gazetteer.Markdown.Piece
import Gazetteer.Markdown.Target
import Gazetteer.Note.Basic
import Gazetteer.Note.Editing
import Gazetteer.Note.Fact
import Gazetteer.Note.FrontMatter
import Gazetteer.Note.LinkPath
import Gazetteer.Note.Name
import Gazetteer.Note.Outline
import Gazetteer.Note.Resolution
import Gazetteer.Number.Binary64
import Gazetteer.Number.Reading
import Gazetteer.Number.Shortest
import Gazetteer.Number.Style
import Gazetteer.Pattern.Basic
import Gazetteer.Pattern.Note
import Gazetteer.Proofs.Index.Agreement
import Gazetteer.Proofs.Index.Lookup
import Gazetteer.Proofs.Index.Reconciliation
import Gazetteer.Proofs.Indexer.AllNotes
import Gazetteer.Proofs.Indexer.Consistency
import Gazetteer.Proofs.Indexer.Frame
import Gazetteer.Proofs.Indexer.Generation
import Gazetteer.Proofs.Indexer.Incremental
import Gazetteer.Proofs.Indexer.Order
import Gazetteer.Proofs.Indexer.Replay
import Gazetteer.Proofs.Indexer.Sources
import Gazetteer.Proofs.Indexer.Unchanged
import Gazetteer.Proofs.Indexer.Update
import Gazetteer.Proofs.Layer.Building
import Gazetteer.Proofs.Layer.Content
import Gazetteer.Proofs.Link.Relation
import Gazetteer.Proofs.Link.Traversal
import Gazetteer.Proofs.Query.Acceptance
import Gazetteer.Proofs.Query.Counting
import Gazetteer.Proofs.Query.Expression
import Gazetteer.Proofs.Query.Grammar
import Gazetteer.Proofs.Query.Lexing
import Gazetteer.Proofs.Query.Writing
import Gazetteer.Query.Basic
import Gazetteer.Query.Fault
import Gazetteer.Query.Predicate
import Gazetteer.Query.TagPattern
import Gazetteer.Query.Token
import Gazetteer.Store.Basic
import Gazetteer.Store.Vault
import Gazetteer.SystemFault
import Gazetteer.Text.Hex
import Gazetteer.Text.Lines
import Gazetteer.Text.Quoted
import Gazetteer.Text.Search
import Gazetteer.Text.Utf8
import Gazetteer.Toml.Reader
import Gazetteer.Toml.Scalar
import Gazetteer.Toml.Table
import Gazetteer.Toml.Text
import Gazetteer.Unicode.Alphabetic
import Gazetteer.Unicode.Blank
import Gazetteer.Unicode.CaseFold
import Gazetteer.Unicode.Composition
import Gazetteer.Unicode.Letter
import Gazetteer.Unicode.Lowercase
import Gazetteer.Unicode.Normalization
import Gazetteer.Unicode.Number
import Gazetteer.Unicode.Printable
import Gazetteer.Unicode.Punctuation
import Gazetteer.Unicode.Ranges
import Gazetteer.Yaml.Reader
import Gazetteer.Yaml.Token
import Gazetteer.Proofs.Index.Repetition
import Gazetteer.Proofs.Geometry.Positions
import Gazetteer.Proofs.Indexer.Places
import Gazetteer.Proofs.Pattern.Occurrences
import Gazetteer.Proofs.Layer.Facts
import Gazetteer.Proofs.Indexer.Answers
import Gazetteer.Proofs.Query.Composition
import Gazetteer.Proofs.Indexer.Reports
import Gazetteer.Proofs.Indexer.Moves
import Gazetteer.Proofs.Layer.Ids
import Gazetteer.Proofs.Index.Partition
import Gazetteer.Proofs.Indexer.Failure
import Gazetteer.Proofs.Files.Path
import Gazetteer.Proofs.Note.Source
import Gazetteer.Proofs.Indexer.Documents
import Gazetteer.Proofs.Files.Tree
import Gazetteer.Proofs.Store.Vault
import Gazetteer.Proofs.Index.Refinement
import Gazetteer.Link.Network
import Gazetteer.Proofs.Pattern.Outcomes
import Gazetteer.Proofs.Note.Links
import Gazetteer.Proofs.Note.Brackets
import Gazetteer.Proofs.Number.Plain
import Gazetteer.Proofs.Note.Rewriting
import Gazetteer.Proofs.Layer.Moving
import Gazetteer.Proofs.Link.Changes
import Gazetteer.Proofs.Link.Network
import Gazetteer.Proofs.Note.FrontMatter
import Gazetteer.Proofs.Note.Resolution
import Gazetteer.Proofs.Pattern.Greedy
import Gazetteer.Proofs.Note.Writing
import Gazetteer.Proofs.Number.Magnitude
import Gazetteer.Proofs.Yaml.Mappings
import Gazetteer.Proofs.Note.Placing
import Gazetteer.Proofs.Note.Extension
import Gazetteer.Proofs.Note.Anchors
import Gazetteer.Proofs.Link.Blocks
import Gazetteer.Proofs.Query.TagPattern
import Gazetteer.Proofs.Geometry.RoundTrip
import Gazetteer.Proofs.Number.Exact
import Gazetteer.Proofs.Geometry.Hull
import Gazetteer.Proofs.Display.Styling
import Gazetteer.Proofs.Query.Stack
import Gazetteer.Proofs.Query.Division
import Gazetteer.Proofs.Layer.Lines
