import EndpointIndex.Cache
import EndpointIndex.CommandLine.Command
import EndpointIndex.CommandLine.Options
import EndpointIndex.CommandLine.Run
import EndpointIndex.Console.Columns
import EndpointIndex.Console.Emoji
import EndpointIndex.Console.EmojiNames
import EndpointIndex.Console.Literal
import EndpointIndex.Console.Markup
import EndpointIndex.Console.Style
import EndpointIndex.Console.Table
import EndpointIndex.Console.Wrap
import EndpointIndex.Declaration.Basic
import EndpointIndex.Declaration.Values
import EndpointIndex.Endpoint.Basic
import EndpointIndex.Endpoint.Extract
import EndpointIndex.Endpoint.Stored
import EndpointIndex.FileMap
import EndpointIndex.FileSystem.Basic
import EndpointIndex.FileSystem.Links
import EndpointIndex.FileSystem.Tree
import EndpointIndex.Glob
import EndpointIndex.Index.Basic
import EndpointIndex.Index.Build
import EndpointIndex.Index.Gate
import EndpointIndex.Index.Update
import EndpointIndex.Java.Escape
import EndpointIndex.Java.Grammar
import EndpointIndex.Java.Parser
import EndpointIndex.Java.Token
import EndpointIndex.Java.Tree
import EndpointIndex.Json.Basic
import EndpointIndex.Json.Checked
import EndpointIndex.Json.Display
import EndpointIndex.Json.Reader
import EndpointIndex.Json.Writer
import EndpointIndex.Listing
import EndpointIndex.Main
import EndpointIndex.Mapping
import EndpointIndex.Number.Double
import EndpointIndex.Number.Round
import EndpointIndex.Path
import EndpointIndex.Proofs.Artifact
import EndpointIndex.Proofs.Bystanders
import EndpointIndex.Proofs.Declaration.Values
import EndpointIndex.Proofs.Endpoint.Located
import EndpointIndex.Proofs.Endpoint.Place
import EndpointIndex.Proofs.Endpoint.Scoping
import EndpointIndex.Proofs.Endpoint.Seen
import EndpointIndex.Proofs.Endpoint.Unplaced
import EndpointIndex.Proofs.FileMap
import EndpointIndex.Proofs.FileSystem.Agreement
import EndpointIndex.Proofs.FileSystem.Changes
import EndpointIndex.Proofs.FileSystem.Directories
import EndpointIndex.Proofs.FileSystem.Names
import EndpointIndex.Proofs.FileSystem.Renaming
import EndpointIndex.Proofs.FileSystem.Tidy
import EndpointIndex.Proofs.FileSystem.Tree
import EndpointIndex.Proofs.FileSystem.Ways
import EndpointIndex.Proofs.Glob
import EndpointIndex.Proofs.Index.Batching
import EndpointIndex.Proofs.Index.Entries
import EndpointIndex.Proofs.Index.Examine
import EndpointIndex.Proofs.Index.Exclusion
import EndpointIndex.Proofs.Index.Failures
import EndpointIndex.Proofs.Index.Incremental
import EndpointIndex.Proofs.Index.Invariant
import EndpointIndex.Proofs.Index.Keeps
import EndpointIndex.Proofs.Index.Mirror
import EndpointIndex.Proofs.Index.Notices
import EndpointIndex.Proofs.Index.Race
import EndpointIndex.Proofs.Index.Rejection
import EndpointIndex.Proofs.Index.Restart
import EndpointIndex.Proofs.Index.Runs
import EndpointIndex.Proofs.Index.Sighting
import EndpointIndex.Proofs.Index.Switch
import EndpointIndex.Proofs.Index.Uncached
import EndpointIndex.Proofs.Java.Marks
import EndpointIndex.Proofs.Java.Parser
import EndpointIndex.Proofs.Java.Stays
import EndpointIndex.Proofs.Json.RoundTrip
import EndpointIndex.Proofs.Listing
import EndpointIndex.Proofs.Mapping
import EndpointIndex.Proofs.Offset.Access
import EndpointIndex.Proofs.Offset.Endpoints
import EndpointIndex.Proofs.Offset.Locate
import EndpointIndex.Proofs.Offset.Masking
import EndpointIndex.Proofs.Offset.Members
import EndpointIndex.Proofs.Offset.Values
import EndpointIndex.Proofs.Outline.Adjacency
import EndpointIndex.Proofs.Outline.Agreement
import EndpointIndex.Proofs.Outline.Basic
import EndpointIndex.Proofs.Outline.Brackets
import EndpointIndex.Proofs.Outline.Elements
import EndpointIndex.Proofs.Outline.Headings
import EndpointIndex.Proofs.Outline.Lexeme
import EndpointIndex.Proofs.Outline.Masking
import EndpointIndex.Proofs.Outline.Members
import EndpointIndex.Proofs.Outline.Nodes
import EndpointIndex.Proofs.Outline.Settled
import EndpointIndex.Proofs.Outline.Spread
import EndpointIndex.Proofs.Outline.Tokens
import EndpointIndex.Proofs.Outline.Values
import EndpointIndex.Proofs.Outline.WellFormed
import EndpointIndex.Proofs.Persistence
import EndpointIndex.Proofs.Prefilter
import EndpointIndex.Proofs.Reader.Composition
import EndpointIndex.Proofs.Reader.Marks
import EndpointIndex.Proofs.Reader.Masked
import EndpointIndex.Proofs.Reader.Redrawn
import EndpointIndex.Proofs.Reader.Stretches
import EndpointIndex.Proofs.Reader.Texts
import EndpointIndex.Proofs.Route
import EndpointIndex.Proofs.Scan.SourceFiles
import EndpointIndex.Proofs.Scan.Walk
import EndpointIndex.Proofs.Search
import EndpointIndex.Proofs.Sorting
import EndpointIndex.Proofs.Source.Closing
import EndpointIndex.Proofs.Source.Lexer
import EndpointIndex.Proofs.Source.Literal
import EndpointIndex.Proofs.Source.Nesting
import EndpointIndex.Proofs.Source.Position
import EndpointIndex.Proofs.Source.Units
import EndpointIndex.Proofs.Text.Blank
import EndpointIndex.Proofs.Text.Utf8
import EndpointIndex.Reader.Basic
import EndpointIndex.Reader.Locate
import EndpointIndex.Reader.Pattern
import EndpointIndex.Reader.Structural
import EndpointIndex.Route.Path
import EndpointIndex.Scan
import EndpointIndex.Search
import EndpointIndex.Settings.Basic
import EndpointIndex.Settings.EnvFile
import EndpointIndex.Source.Bracket
import EndpointIndex.Source.Escape
import EndpointIndex.Source.Mask
import EndpointIndex.Source.Position
import EndpointIndex.Store
import EndpointIndex.Text.Blank
import EndpointIndex.Text.Case
import EndpointIndex.Text.Category
import EndpointIndex.Text.Numeral
import EndpointIndex.Text.Occurs
import EndpointIndex.Text.Printable
import EndpointIndex.Text.Utf8
import EndpointIndex.Text.Width
