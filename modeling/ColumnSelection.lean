import ColumnSelection.Batch.Operator
import ColumnSelection.Column.Basic
import ColumnSelection.Column.Codec
import ColumnSelection.Column.DataType
import ColumnSelection.Column.Path
import ColumnSelection.Column.Tree
import ColumnSelection.Entries
import ColumnSelection.Failure
import ColumnSelection.Failure.Codec
import ColumnSelection.Json.Basic
import ColumnSelection.Json.Printer
import ColumnSelection.Json.Reader
import ColumnSelection.Json.Record
import ColumnSelection.Logged
import ColumnSelection.Numeric.Binary64
import ColumnSelection.Numeric.Literal
import ColumnSelection.Numeric.Shortest
import ColumnSelection.Pattern.Basic
import ColumnSelection.Pattern.Bracket
import ColumnSelection.Pattern.CharSet
import ColumnSelection.Pattern.Escape
import ColumnSelection.Pattern.Flags
import ColumnSelection.Pattern.Property
import ColumnSelection.Pattern.Reader
import ColumnSelection.Pattern.Regex
import ColumnSelection.Program.Arguments
import ColumnSelection.Program.Basic
import ColumnSelection.Program.Compile
import ColumnSelection.Program.Filter
import ColumnSelection.Program.Literal
import ColumnSelection.Program.Operator
import ColumnSelection.Program.Reader
import ColumnSelection.Program.Variables
import ColumnSelection.Proofs.BareWords
import ColumnSelection.Proofs.BuiltColumns
import ColumnSelection.Proofs.CallDepth
import ColumnSelection.Proofs.Cells
import ColumnSelection.Proofs.Collapsing
import ColumnSelection.Proofs.CompactText
import ColumnSelection.Proofs.Compiling
import ColumnSelection.Proofs.Covering
import ColumnSelection.Proofs.DepthSearch
import ColumnSelection.Proofs.Description
import ColumnSelection.Proofs.Excluding
import ColumnSelection.Proofs.FrameCells
import ColumnSelection.Proofs.GroupScope
import ColumnSelection.Proofs.Holding
import ColumnSelection.Proofs.LeadingAll
import ColumnSelection.Proofs.Leniency
import ColumnSelection.Proofs.Levels
import ColumnSelection.Proofs.LineReading
import ColumnSelection.Proofs.NestedLines
import ColumnSelection.Proofs.Nullability
import ColumnSelection.Proofs.Outcome
import ColumnSelection.Proofs.OutputNames
import ColumnSelection.Proofs.PathOutcomes
import ColumnSelection.Proofs.PathText
import ColumnSelection.Proofs.PredicateExclusion
import ColumnSelection.Proofs.PredicateSpelling
import ColumnSelection.Proofs.ProjectedCells
import ColumnSelection.Proofs.ProjectedSchema
import ColumnSelection.Proofs.Projection
import ColumnSelection.Proofs.Pruning
import ColumnSelection.Proofs.QuotedNames
import ColumnSelection.Proofs.Referencing
import ColumnSelection.Proofs.Reinference
import ColumnSelection.Proofs.Removal
import ColumnSelection.Proofs.RemovalChain
import ColumnSelection.Proofs.Resolution
import ColumnSelection.Proofs.RowLines
import ColumnSelection.Proofs.RowOrder
import ColumnSelection.Proofs.SimplifiedLeaves
import ColumnSelection.Proofs.Simplifying
import ColumnSelection.Proofs.Skipping
import ColumnSelection.Proofs.Slicing
import ColumnSelection.Proofs.StepPredicates
import ColumnSelection.Proofs.StepReading
import ColumnSelection.Proofs.Substitution
import ColumnSelection.Proofs.SuccessiveExclusion
import ColumnSelection.Proofs.SurfaceForms
import ColumnSelection.Proofs.TextPieces
import ColumnSelection.Proofs.TreeCodec
import ColumnSelection.Proofs.TreeIdentity
import ColumnSelection.Proofs.TreeLookup
import ColumnSelection.Proofs.ValidationFaults
import ColumnSelection.Proofs.ValueEquality
import ColumnSelection.Proofs.ValueSize
import ColumnSelection.Proofs.VariableScope
import ColumnSelection.Proofs.WordLines
import ColumnSelection.Proofs.YamlRoundTrip
import ColumnSelection.Selection.Basic
import ColumnSelection.Selection.ColumnLists
import ColumnSelection.Selection.Predicate
import ColumnSelection.Selection.Resolve
import ColumnSelection.Selection.Scope
import ColumnSelection.Table.Basic
import ColumnSelection.Table.Inference
import ColumnSelection.Table.JsonLines
import ColumnSelection.Text.Pieces
import ColumnSelection.Text.Search
import ColumnSelection.Unicode.Age
import ColumnSelection.Unicode.Casing
import ColumnSelection.Unicode.Category
import ColumnSelection.Unicode.Property
import ColumnSelection.Unicode.Ranges
import ColumnSelection.Unicode.Script
import ColumnSelection.Yaml.Cursor
import ColumnSelection.Yaml.Denotation
import ColumnSelection.Yaml.Document
import ColumnSelection.Yaml.Grammar
import ColumnSelection.Yaml.Label
import ColumnSelection.Yaml.Layout
import ColumnSelection.Yaml.Node
import ColumnSelection.Yaml.Scalar.Block
import ColumnSelection.Yaml.Scalar.Flow
import ColumnSelection.Yaml.Scalar.Meaning
import ColumnSelection.Yaml.Value
