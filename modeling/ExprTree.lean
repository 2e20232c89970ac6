import ExprTree.Text.Unicode
import ExprTree.Text.Grapheme
import ExprTree.Text.Width
import ExprTree.Text.Escape
import ExprTree.Text.Moment
import ExprTree.Number.Binary
import ExprTree.Number.Shortest
import ExprTree.Number.Render
import ExprTree.Number.Parse
import ExprTree.Data.Ty
import ExprTree.Data.Value
import ExprTree.Fault
import ExprTree.Fault.Heap
import ExprTree.Data.Show
import ExprTree.Data.Source
import ExprTree.Text.Fuzzy
import ExprTree.Data.Access
import ExprTree.Tree.Node
import ExprTree.Log.Record
import ExprTree.Tree.Scope
import ExprTree.Tree.Build
import ExprTree.Tree.Eval
import ExprTree.Text.Quote
import ExprTree.Tree.Document
import ExprTree.Tree.Dialect
import ExprTree.Hash.Xxh3
import ExprTree.Json.Emit
import ExprTree.Yaml.Scalar
import ExprTree.Yaml.Emit
import ExprTree.Log.Json
import ExprTree.Json.Read
import ExprTree.Log.Level
import ExprTree.Yaml.Token
import ExprTree.Yaml.Block
import ExprTree.Yaml.Scanner
import ExprTree.Yaml.Scan
import ExprTree.Yaml.Group
import ExprTree.Yaml.Node
import ExprTree.Yaml.Parse
import ExprTree.Yaml.Decode
import ExprTree.Tree.Decode
import ExprTree.Text.Cells
import ExprTree.Text.Duration
import ExprTree.Text.Clock
import ExprTree.Log.Logger
import ExprTree.Log.Line
import ExprTree.Text.Drawing
import ExprTree.Host.FileSystem
import ExprTree.Command.Session
import ExprTree.Command.Run
import ExprTree.Cli.Spec
import ExprTree.Cli.Help
import ExprTree.Cli.Parse
import ExprTree.Cli.Config
import ExprTree.Cli.Run
import ExprTree.Main
import ExprTree.Proofs.Construction
import ExprTree.Proofs.Scope
import ExprTree.Proofs.Erasure
import ExprTree.Proofs.Reading
import ExprTree.Proofs.RoundTrip
import ExprTree.Proofs.Bindings
import ExprTree.Proofs.Safety
import ExprTree.Proofs.Views
import ExprTree.Proofs.Lexical
import ExprTree.Proofs.Unambiguity
import ExprTree.Proofs.Translation
import ExprTree.Proofs.Equality
import ExprTree.Proofs.Tracing
import ExprTree.Proofs.JsonDocument
import ExprTree.Proofs.Outline
import ExprTree.Proofs.ErrorObjects
import ExprTree.Proofs.Derivation
import ExprTree.Proofs.Indexing
import ExprTree.Proofs.Lookup
import ExprTree.Proofs.Output
import ExprTree.Log.Pretty
import ExprTree.Proofs.PrettyLine
import ExprTree.Proofs.Settings
import ExprTree.Proofs.Suggestions
import ExprTree.Proofs.LevelNames
