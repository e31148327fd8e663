import GoAddress.Address.Basic
import GoAddress.Address.Identifier
import GoAddress.Address.Parser
import GoAddress.CommandLine.Arguments
import GoAddress.CommandLine.Run
import GoAddress.Decl.Basic
import GoAddress.Decl.Span
import GoAddress.Decl.Tag
import GoAddress.Diagnostic
import GoAddress.Files.Glob
import GoAddress.Files.GoModule
import GoAddress.Files.Ignore
import GoAddress.Files.Tree
import GoAddress.Grammar.Automaton
import GoAddress.Grammar.Production
import GoAddress.Grammar.Rule
import GoAddress.Grammar.Rules
import GoAddress.Grammar.Table
import GoAddress.Grammar.TokenSet
import GoAddress.Grammar.Vocabulary
import GoAddress.Main
import GoAddress.Number.Binary64
import GoAddress.Order
import GoAddress.Pattern.Basic
import GoAddress.Pattern.Entry
import GoAddress.Program.Basic
import GoAddress.Program.Load
import GoAddress.Program.Symbol
import GoAddress.Reachability
import GoAddress.Report.Command
import GoAddress.Report.Envelope
import GoAddress.Report.Failure
import GoAddress.Report.Grid
import GoAddress.Report.Json
import GoAddress.Resolve.Basic
import GoAddress.Resolve.Children
import GoAddress.Resolve.Enumerate
import GoAddress.Resolve.Node
import GoAddress.Scope
import GoAddress.Settings.Basic
import GoAddress.Settings.Environment
import GoAddress.Settings.Init
import GoAddress.Settings.Load
import GoAddress.Settings.Printer
import GoAddress.Settings.Value
import GoAddress.Source.DocComment
import GoAddress.Source.Extract
import GoAddress.Source.Lexer
import GoAddress.Source.Literal
import GoAddress.Source.Parser
import GoAddress.Source.Phrase
import GoAddress.Source.Position
import GoAddress.Source.Salvage
import GoAddress.Source.Stack
import GoAddress.Source.Surface
import GoAddress.Source.Tree
import GoAddress.Source.TypeName
import GoAddress.Suggest.Address
import GoAddress.Suggest.EditDistance
import GoAddress.Suggest.Rank
import GoAddress.Text.Alphabetic
import GoAddress.Text.Blank
import GoAddress.Text.Case
import GoAddress.Text.Emoji
import GoAddress.Text.Numeric
import GoAddress.Text.Quoted
import GoAddress.Text.Ranges
import GoAddress.Text.Slice
import GoAddress.Text.Split
import GoAddress.Text.Width
import GoAddress.Text.WordChar
import GoAddress.Toml.Reader
import GoAddress.Toml.Scalar
import GoAddress.Toml.Writer
import GoAddress.Proofs.Address.Segment
import GoAddress.Proofs.Address.Grammar
import GoAddress.Proofs.Program.Lookup
import GoAddress.Proofs.Program.Index
import GoAddress.Proofs.Program.Loading
import GoAddress.Proofs.Resolve.Roots
import GoAddress.Proofs.Resolve.Measure
import GoAddress.Proofs.Address.Reading
import GoAddress.Proofs.Resolve.Listing
import GoAddress.Proofs.Resolve.Owners
import GoAddress.Proofs.Resolve.Universe
import GoAddress.Proofs.Resolve.Methods
import GoAddress.Proofs.Pattern.Reading
import GoAddress.Proofs.Pattern.Matching
import GoAddress.Proofs.Order
import GoAddress.Proofs.Text.Trimming
import GoAddress.Proofs.Scope.Token
import GoAddress.Proofs.Scope.Membership
import GoAddress.Proofs.Reachability
import GoAddress.Proofs.Address.Rebasing
import GoAddress.Proofs.Resolve.Canonical
import GoAddress.Proofs.Resolve.ShortForms
import GoAddress.Proofs.Resolve.Sources
import GoAddress.Proofs.Source.Trees
import GoAddress.Proofs.Source.Frames
import GoAddress.Proofs.Source.Readings
import GoAddress.Proofs.Source.Places
import GoAddress.Proofs.Source.Declarations
import GoAddress.Proofs.Source.Snippets
import GoAddress.Proofs.Source.GoParser
import GoAddress.Proofs.Program.Regularity
import GoAddress.Proofs.Pattern.Widening
import GoAddress.Proofs.Resolve.Keys
import GoAddress.Proofs.Resolve.Misses
import GoAddress.Proofs.Resolve.Names
import GoAddress.Proofs.Pattern.Segments
import GoAddress.Proofs.Pattern.Entries
import GoAddress.Proofs.Scope.Subtrees
import GoAddress.Proofs.Mentions
import GoAddress.Proofs.Suggest.EditDistance
import GoAddress.Proofs.Suggest.Ranking
import GoAddress.Proofs.Tags
import GoAddress.Proofs.Resolve.Reaching
import GoAddress.Proofs.Suggest.Usable
import GoAddress.Proofs.Program.Directories
import GoAddress.Proofs.Program.Symbols
import GoAddress.Proofs.Source.Comments
import GoAddress.Proofs.Source.TypeNames
