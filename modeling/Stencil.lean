import Stencil.CommandLine
import Stencil.CommandLine.Arguments
import Stencil.Composition
import Stencil.Composition.Template
import Stencil.Environment
import Stencil.Evaluation
import Stencil.Evaluation.Error
import Stencil.Evaluation.Lookup
import Stencil.Evaluation.Pipeline
import Stencil.Function.Error
import Stencil.Function.Standard
import Stencil.Function.Total
import Stencil.Main
import Stencil.Members
import Stencil.Node.Basic
import Stencil.Node.Codec
import Stencil.Number
import Stencil.Number.Binary64
import Stencil.Number.Shortest
import Stencil.Operator.Constraint
import Stencil.Operator.Inception
import Stencil.Operator.Symbol
import Stencil.Operator.Take
import Stencil.Operator.Token
import Stencil.Path.Address
import Stencil.Path.Segment
import Stencil.Path.Spelling
import Stencil.Proofs.Composition.Nesting
import Stencil.Proofs.Composition.Renders
import Stencil.Proofs.Evaluation.Declaration
import Stencil.Proofs.Evaluation.Effect
import Stencil.Proofs.Evaluation.Faults
import Stencil.Proofs.Evaluation.Independence
import Stencil.Proofs.Evaluation.Ordinals
import Stencil.Proofs.Evaluation.Precedence
import Stencil.Proofs.Evaluation.Recording
import Stencil.Proofs.Evaluation.Redirection
import Stencil.Proofs.Evaluation.Resolution
import Stencil.Proofs.Evaluation.Running
import Stencil.Proofs.Evaluation.Settling
import Stencil.Proofs.Evaluation.Stages
import Stencil.Proofs.Function.Conversion
import Stencil.Proofs.Function.Sums
import Stencil.Proofs.Node.Codec
import Stencil.Proofs.Number.Order
import Stencil.Proofs.Number.Rounding
import Stencil.Proofs.Operator.Constraint
import Stencil.Proofs.Operator.Displays
import Stencil.Proofs.Operator.Tokens
import Stencil.Proofs.Path.Canonical
import Stencil.Proofs.Path.Grammar
import Stencil.Proofs.Path.Inversion
import Stencil.Proofs.Path.Overlap
import Stencil.Proofs.Path.Plain
import Stencil.Proofs.Path.Rereading
import Stencil.Proofs.Path.Tight
import Stencil.Proofs.Query.Canonical
import Stencil.Proofs.Query.Direct
import Stencil.Proofs.Query.Inversion
import Stencil.Proofs.Sorting
import Stencil.Proofs.TagTable.Exchange
import Stencil.Proofs.TagTable.Growth
import Stencil.Proofs.TagTable.History
import Stencil.Proofs.TagTable.Keys
import Stencil.Proofs.TagTable.Padding
import Stencil.Proofs.TagTable.Reading
import Stencil.Proofs.TagTable.Writing
import Stencil.Proofs.Text.Counts
import Stencil.Proofs.Text.Cutting
import Stencil.Proofs.Text.Pieces
import Stencil.Proofs.Text.Quoting
import Stencil.Proofs.Value.Children
import Stencil.Proofs.Value.Order
import Stencil.Proofs.Value.Reversal
import Stencil.Proofs.Value.Sameness
import Stencil.Query.Expression
import Stencil.Query.Pattern
import Stencil.Query.Pattern.Reader
import Stencil.Query.Reader
import Stencil.Query.Select
import Stencil.Registry
import Stencil.Settings
import Stencil.Settings.Fields
import Stencil.Settings.Load
import Stencil.Settings.Toml.Reader
import Stencil.Settings.Toml.Scalar
import Stencil.Settings.Toml.Table
import Stencil.Settings.Yaml.Block
import Stencil.Settings.Yaml.Layout
import Stencil.Settings.Yaml.Reader
import Stencil.Settings.Yaml.Scalar
import Stencil.Settings.Yaml.Tree
import Stencil.Sorting
import Stencil.TagTable
import Stencil.TagTable.Document
import Stencil.Text.Blank
import Stencil.Text.Case
import Stencil.Text.CaseTable
import Stencil.Text.Decimal
import Stencil.Text.Escape
import Stencil.Text.Numeral
import Stencil.Text.Pieces
import Stencil.Text.WordRanges
import Stencil.Value.Basic
import Stencil.Value.Order
import Stencil.Value.Reader
import Stencil.Value.Text
