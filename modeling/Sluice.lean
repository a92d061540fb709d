import Sluice.Binding
import Sluice.CommandLine
import Sluice.Config.Basic
import Sluice.Config.Draft
import Sluice.Config.Error
import Sluice.Config.Position
import Sluice.Config.Reader
import Sluice.Config.Source
import Sluice.Context
import Sluice.Decimal.Exact
import Sluice.Decimal.Places
import Sluice.Decimal.Reading
import Sluice.Decimal.Remainder
import Sluice.Decimal.Shortest
import Sluice.Digest
import Sluice.Expr.Basic
import Sluice.Expr.Error
import Sluice.Expr.Eval
import Sluice.Expr.Function
import Sluice.Expr.Fuzzy
import Sluice.Expr.Lexer
import Sluice.Expr.Operation
import Sluice.Expr.Parser
import Sluice.Expr.Template
import Sluice.Expr.Token
import Sluice.Fields
import Sluice.FileTree
import Sluice.Form
import Sluice.Host
import Sluice.Host.Script
import Sluice.Host.Shell
import Sluice.Index
import Sluice.Json.Basic
import Sluice.Json.Printer
import Sluice.Json.Reader
import Sluice.Log
import Sluice.Main
import Sluice.Pattern.Basic
import Sluice.Pattern.Parser
import Sluice.Pattern.Program
import Sluice.Pattern.Property
import Sluice.Pattern.Search
import Sluice.Plugin.Basic
import Sluice.Plugin.Body
import Sluice.Plugin.Builtin
import Sluice.Plugin.Command
import Sluice.Plugin.Error
import Sluice.Plugin.Header
import Sluice.Plugin.Http
import Sluice.Plugin.JsonRpc
import Sluice.Plugin.Log
import Sluice.Plugin.Match
import Sluice.Plugin.Outgoing
import Sluice.Plugin.Params
import Sluice.Plugin.ReadFile
import Sluice.Plugin.Registry
import Sluice.Proofs.Access.Basic
import Sluice.Proofs.Access.Coalescing
import Sluice.Proofs.Access.Queries
import Sluice.Proofs.Arithmetic.Binary64
import Sluice.Proofs.Arithmetic.Coherence
import Sluice.Proofs.Arithmetic.Comparing
import Sluice.Proofs.Arithmetic.Integers
import Sluice.Proofs.Arithmetic.Ordering
import Sluice.Proofs.Asking.Agreement
import Sluice.Proofs.Asking.Basic
import Sluice.Proofs.Binding.Parameters
import Sluice.Proofs.Binding.Values
import Sluice.Proofs.Digits
import Sluice.Proofs.Failing
import Sluice.Proofs.Forms
import Sluice.Proofs.Forms.Pieces
import Sluice.Proofs.Fuzzy.Closest
import Sluice.Proofs.Fuzzy.Distance
import Sluice.Proofs.Fuzzy.Edits
import Sluice.Proofs.Fuzzy.Table
import Sluice.Proofs.Grammar.Acceptance
import Sluice.Proofs.Grammar.Basic
import Sluice.Proofs.Grammar.Completeness
import Sluice.Proofs.Grammar.Lookahead
import Sluice.Proofs.Grammar.Offending
import Sluice.Proofs.Grammar.Outcomes
import Sluice.Proofs.Grammar.Reading
import Sluice.Proofs.Grammar.Soundness
import Sluice.Proofs.Grammar.Texts
import Sluice.Proofs.Grammar.Viability
import Sluice.Proofs.Json.Equality
import Sluice.Proofs.Json.Lexemes
import Sluice.Proofs.Json.Quoting
import Sluice.Proofs.Json.Spelling
import Sluice.Proofs.Json.Sublanguage
import Sluice.Proofs.Lexing
import Sluice.Proofs.Lexing.Agreement
import Sluice.Proofs.Lexing.Bytes
import Sluice.Proofs.Lexing.Enclosed
import Sluice.Proofs.Lexing.Parts
import Sluice.Proofs.Lexing.Paths
import Sluice.Proofs.Lexing.Printing
import Sluice.Proofs.Lexing.Runs
import Sluice.Proofs.Lexing.Scan
import Sluice.Proofs.Lexing.Tiling
import Sluice.Proofs.Loading.Agreement
import Sluice.Proofs.Loading.Basic
import Sluice.Proofs.Loading.Cycles
import Sluice.Proofs.Loading.Directives
import Sluice.Proofs.Loading.Documents
import Sluice.Proofs.Loading.Entries
import Sluice.Proofs.Loading.Flatten
import Sluice.Proofs.Loading.Graph
import Sluice.Proofs.Loading.Includes
import Sluice.Proofs.Loading.Kept
import Sluice.Proofs.Loading.Mistakes
import Sluice.Proofs.Loading.Origins
import Sluice.Proofs.Loading.Plugins
import Sluice.Proofs.Loading.Positions
import Sluice.Proofs.Loading.Shape
import Sluice.Proofs.Loading.Splicing
import Sluice.Proofs.Loading.Spots
import Sluice.Proofs.Loading.Stack
import Sluice.Proofs.Loading.Targets
import Sluice.Proofs.Loading.Unplaced
import Sluice.Proofs.Mappings
import Sluice.Proofs.Parameters.Accepted
import Sluice.Proofs.Parameters.Declared
import Sluice.Proofs.Parameters.Reading
import Sluice.Proofs.Query.Definite
import Sluice.Proofs.Query.Reading
import Sluice.Proofs.Query.Taking
import Sluice.Proofs.Rebinding
import Sluice.Proofs.Requests.Bodies
import Sluice.Proofs.Requests.Headers
import Sluice.Proofs.Running.Assigning
import Sluice.Proofs.Running.Coupling
import Sluice.Proofs.Running.Declaring
import Sluice.Proofs.Running.Lists
import Sluice.Proofs.Running.Nesting
import Sluice.Proofs.Running.Order
import Sluice.Proofs.Running.Parts
import Sluice.Proofs.Running.Persistence
import Sluice.Proofs.Running.PipeDefault
import Sluice.Proofs.Running.Pipes
import Sluice.Proofs.Running.Registration
import Sluice.Proofs.Running.Renaming
import Sluice.Proofs.Running.ResultFlag
import Sluice.Proofs.Running.Skipping
import Sluice.Proofs.Running.Started
import Sluice.Proofs.Running.Trail
import Sluice.Proofs.Running.Uninvoked
import Sluice.Proofs.Running.Visits
import Sluice.Proofs.Scope.Builtin
import Sluice.Proofs.Scope.Interpreter
import Sluice.Proofs.Scope.Runs
import Sluice.Proofs.Scope.Simulation
import Sluice.Proofs.Scope.Steps
import Sluice.Proofs.Serving.Isolation
import Sluice.Proofs.Serving.Threads
import Sluice.Proofs.Serving.Workers
import Sluice.Proofs.Subjects
import Sluice.Proofs.Templates.Filling
import Sluice.Proofs.Templates.Integers
import Sluice.Proofs.Templates.Pieces
import Sluice.Proofs.Texts
import Sluice.Proofs.Utf8
import Sluice.Proofs.Walking.Agreement
import Sluice.Proofs.Walking.Basic
import Sluice.Proofs.Walking.Progress
import Sluice.Query.Basic
import Sluice.Query.Parser
import Sluice.Query.Select
import Sluice.Request
import Sluice.Run.Basic
import Sluice.Run.Binding
import Sluice.Run.Event
import Sluice.Run.Step
import Sluice.Schema.Basic
import Sluice.Schema.Check
import Sluice.Schema.Reader
import Sluice.Service
import Sluice.Text.Case
import Sluice.Text.Category
import Sluice.Text.Decomposition
import Sluice.Text.Folding
import Sluice.Text.Property
import Sluice.Text.Quoted
import Sluice.Text.Ranges
import Sluice.Text.Script
import Sluice.Text.Split
import Sluice.Text.Utf8
import Sluice.Url.Basic
import Sluice.Url.Host
import Sluice.Url.Parser
import Sluice.Url.Punycode
import Sluice.Yaml.Cursor
import Sluice.Yaml.Lexer
import Sluice.Yaml.Node
import Sluice.Yaml.Scalar
import Sluice.Yaml.Token
import Sluice.Yaml.Value
