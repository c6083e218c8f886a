import JsonQuery.Binary64.Arithmetic
import JsonQuery.Binary64.Basic
import JsonQuery.Binary64.Shortest
import JsonQuery.Command.Arguments
import JsonQuery.Command.Basic
import JsonQuery.Command.Run
import JsonQuery.Decimal.Basic
import JsonQuery.Decimal.Convert
import JsonQuery.Evaluation
import JsonQuery.Expr.Basic
import JsonQuery.Expr.Eval
import JsonQuery.Expr.Parser
import JsonQuery.Expr.Printer
import JsonQuery.Expr.Stacks
import JsonQuery.Expr.Token
import JsonQuery.Function.Basic
import JsonQuery.Function.Call
import JsonQuery.Held.Basic
import JsonQuery.Held.Call
import JsonQuery.Held.Eval
import JsonQuery.Json.Basic
import JsonQuery.Json.Entries
import JsonQuery.Json.MergePatch
import JsonQuery.Json.Pointer
import JsonQuery.Json.Printer
import JsonQuery.Json.Reader
import JsonQuery.Main
import JsonQuery.Number
import JsonQuery.Operator
import JsonQuery.Options
import JsonQuery.ParseError
import JsonQuery.Path.Basic
import JsonQuery.Path.Location
import JsonQuery.Path.Parser
import JsonQuery.Path.Printer
import JsonQuery.Path.Query
import JsonQuery.Path.Select
import JsonQuery.Pattern.Automaton
import JsonQuery.Pattern.Basic
import JsonQuery.Pattern.CharClass
import JsonQuery.Pattern.CharSet
import JsonQuery.Pattern.Match
import JsonQuery.Pattern.Normal
import JsonQuery.Pattern.Parser
import JsonQuery.Pattern.Property
import JsonQuery.Proofs.Evaluation.Budget
import JsonQuery.Proofs.Evaluation.Coupling
import JsonQuery.Proofs.Evaluation.Depth
import JsonQuery.Proofs.Evaluation.Ending
import JsonQuery.Proofs.Evaluation.Judgment
import JsonQuery.Proofs.Evaluation.Keeping
import JsonQuery.Proofs.Evaluation.MemberOrder
import JsonQuery.Proofs.Evaluation.Mirroring
import JsonQuery.Proofs.Evaluation.Naming
import JsonQuery.Proofs.Evaluation.Outcome
import JsonQuery.Proofs.Evaluation.Pipe
import JsonQuery.Proofs.Expr.Agreement
import JsonQuery.Proofs.Expr.Built
import JsonQuery.Proofs.Expr.Chain
import JsonQuery.Proofs.Expr.ChainReading
import JsonQuery.Proofs.Expr.ChainSearch
import JsonQuery.Proofs.Expr.ChainText
import JsonQuery.Proofs.Expr.Embedding
import JsonQuery.Proofs.Expr.Enclosure
import JsonQuery.Proofs.Expr.Entries
import JsonQuery.Proofs.Expr.Height
import JsonQuery.Proofs.Expr.Layout
import JsonQuery.Proofs.Expr.LiteralText
import JsonQuery.Proofs.Expr.Matching
import JsonQuery.Proofs.Expr.Moves
import JsonQuery.Proofs.Expr.Nodes
import JsonQuery.Proofs.Expr.OperatorStacks
import JsonQuery.Proofs.Expr.OperatorText
import JsonQuery.Proofs.Expr.Part
import JsonQuery.Proofs.Expr.Parting
import JsonQuery.Proofs.Expr.Parts
import JsonQuery.Proofs.Expr.Place
import JsonQuery.Proofs.Expr.PlainChain
import JsonQuery.Proofs.Expr.Pointing
import JsonQuery.Proofs.Expr.Prefix
import JsonQuery.Proofs.Expr.QuotedText
import JsonQuery.Proofs.Expr.Regular
import JsonQuery.Proofs.Expr.Shift
import JsonQuery.Proofs.Expr.Stratified
import JsonQuery.Proofs.Expr.TextEnd
import JsonQuery.Proofs.Expr.Turn
import JsonQuery.Proofs.Expr.WellFormed
import JsonQuery.Proofs.Expr.Within
import JsonQuery.Proofs.Function.Merging
import JsonQuery.Proofs.Function.Orderless
import JsonQuery.Proofs.Function.SelfKeyed
import JsonQuery.Proofs.Function.Sorting
import JsonQuery.Proofs.Held.Calls
import JsonQuery.Proofs.Held.Evaluation
import JsonQuery.Proofs.Held.Showing
import JsonQuery.Proofs.Json.DocumentEnd
import JsonQuery.Proofs.Json.Entries
import JsonQuery.Proofs.Json.Everywhere
import JsonQuery.Proofs.Json.Extent
import JsonQuery.Proofs.Json.MergePatch
import JsonQuery.Proofs.Json.Pointer
import JsonQuery.Proofs.Json.Reapplied
import JsonQuery.Proofs.Json.StringText
import JsonQuery.Proofs.Json.UniqueNames
import JsonQuery.Proofs.Number.Integers
import JsonQuery.Proofs.Number.Mark
import JsonQuery.Proofs.Number.Rational
import JsonQuery.Proofs.Operator.Tree
import JsonQuery.Proofs.Path.Ascent
import JsonQuery.Proofs.Path.Budget
import JsonQuery.Proofs.Path.Chains
import JsonQuery.Proofs.Path.Climbing
import JsonQuery.Proofs.Path.Coupling
import JsonQuery.Proofs.Path.Descent
import JsonQuery.Proofs.Path.DescentCoupling
import JsonQuery.Proofs.Path.Distinct
import JsonQuery.Proofs.Path.Extending
import JsonQuery.Proofs.Path.Formula
import JsonQuery.Proofs.Path.Grammar
import JsonQuery.Proofs.Path.JsonName
import JsonQuery.Proofs.Path.Meaning
import JsonQuery.Proofs.Path.Negated
import JsonQuery.Proofs.Path.Nesting
import JsonQuery.Proofs.Path.Normalized
import JsonQuery.Proofs.Path.OperatorStacks
import JsonQuery.Proofs.Path.OperatorText
import JsonQuery.Proofs.Path.PlainChain
import JsonQuery.Proofs.Path.Pointing
import JsonQuery.Proofs.Path.Position
import JsonQuery.Proofs.Path.QuotedName
import JsonQuery.Proofs.Path.Reading
import JsonQuery.Proofs.Path.Rereading
import JsonQuery.Proofs.Path.RootCache
import JsonQuery.Proofs.Path.Singular
import JsonQuery.Proofs.Path.Standing
import JsonQuery.Proofs.Path.Taking
import JsonQuery.Proofs.Path.Union
import JsonQuery.Proofs.Path.WellFormed
import JsonQuery.Proofs.Schema.Addresses
import JsonQuery.Proofs.Schema.Agenda
import JsonQuery.Proofs.Schema.Compilation
import JsonQuery.Proofs.Schema.Correctness
import JsonQuery.Proofs.Schema.Depth
import JsonQuery.Proofs.Schema.Ending
import JsonQuery.Proofs.Schema.Keywords
import JsonQuery.Proofs.Schema.Meaning
import JsonQuery.Proofs.Schema.Measure
import JsonQuery.Proofs.Schema.Parts
import JsonQuery.Proofs.Schema.Places
import JsonQuery.Proofs.Schema.Repetition
import JsonQuery.Proofs.Schema.Rounds
import JsonQuery.Proofs.Schema.Script
import JsonQuery.Proofs.Schema.Simulation
import JsonQuery.Proofs.Schema.Verdict
import JsonQuery.Proofs.Slice.Indices
import JsonQuery.Proofs.Text.Cursor
import JsonQuery.Proofs.Text.Location
import JsonQuery.Proofs.Text.Utf16
import JsonQuery.Proofs.Value.Akin
import JsonQuery.Proofs.Value.Comparison
import JsonQuery.Proofs.Value.Document
import JsonQuery.Proofs.Value.Equality
import JsonQuery.Proofs.Value.Fingerprint
import JsonQuery.Proofs.Value.Hereditary
import JsonQuery.Proofs.Value.Reading
import JsonQuery.Proofs.Value.Reordered
import JsonQuery.Query
import JsonQuery.Schema.Basic
import JsonQuery.Schema.Compile
import JsonQuery.Schema.Printer
import JsonQuery.Schema.Validate
import JsonQuery.Slice
import JsonQuery.Text.Age
import JsonQuery.Text.Alphabetic
import JsonQuery.Text.Basic
import JsonQuery.Text.BinaryProperty
import JsonQuery.Text.Boundary
import JsonQuery.Text.ByteRange
import JsonQuery.Text.CaseFold
import JsonQuery.Text.Category
import JsonQuery.Text.CodeClass
import JsonQuery.Text.Composition
import JsonQuery.Text.Cursor
import JsonQuery.Text.Direction
import JsonQuery.Text.Encoding
import JsonQuery.Text.Quoted
import JsonQuery.Text.RangeTable
import JsonQuery.Text.Script
import JsonQuery.Uri.Basic
import JsonQuery.Uri.Domain
import JsonQuery.Uri.DomainChar
import JsonQuery.Uri.Host
import JsonQuery.Uri.Join
import JsonQuery.Uri.Percent
import JsonQuery.Uri.Punycode
import JsonQuery.Value.Basic
import JsonQuery.Value.Fingerprint
import JsonQuery.Value.Operation
import JsonQuery.Value.Order
