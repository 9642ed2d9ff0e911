import RecordFlow.Inspection
import RecordFlow.Json.Compare
import RecordFlow.LogFilter
import RecordFlow.Main
import RecordFlow.Proofs.Literal.Grammar
import RecordFlow.Proofs.Literal.Trivia
import RecordFlow.Proofs.Literal.Strings
import RecordFlow.Proofs.Literal.Numbers
import RecordFlow.Proofs.Literal.Patterns
import RecordFlow.Proofs.Literal.Scalars
import RecordFlow.Proofs.Literal.Objects
import RecordFlow.Proofs.Binary64.Decimal
import RecordFlow.Proofs.Literal.Rendering
import RecordFlow.Proofs.Manifest.Declarations
import RecordFlow.Proofs.Manifest.Reading
import RecordFlow.Proofs.Manifest.Writing
import RecordFlow.Proofs.Manifest.RoundTrip
import RecordFlow.Proofs.Manifest.Refusal
import RecordFlow.Proofs.Graph.Narrowing
import RecordFlow.Proofs.Resolution
import RecordFlow.Proofs.Graph.Rebuilding
import RecordFlow.Proofs.Registry.History
import RecordFlow.Proofs.Manifest.Extension
import RecordFlow.Proofs.Operator.Failure
import RecordFlow.Proofs.Json.Compare
import RecordFlow.Proofs.Json.Equality
import RecordFlow.Proofs.Operator.SortOrder
import RecordFlow.Proofs.Operator.Stability
import RecordFlow.Proofs.Binary64.Integers
import RecordFlow.Proofs.Json.Integers
import RecordFlow.Proofs.Operator.Projection
import RecordFlow.Proofs.Graph.Repetition
import RecordFlow.Proofs.Graph.Exchange
import RecordFlow.Proofs.Graph.Projection
import RecordFlow.Proofs.Operator.Grouping
import RecordFlow.Proofs.Binary64.Text
import RecordFlow.Proofs.Json.Values
import RecordFlow.Proofs.Json.Scalars
import RecordFlow.Proofs.Json.RoundTrip
import RecordFlow.Proofs.Json.Reading
import RecordFlow.Proofs.Resource.Reading
import RecordFlow.Proofs.Resource.RoundTrip
import RecordFlow.Proofs.Resource.Wrapping
import RecordFlow.Proofs.Operator.Values
import RecordFlow.Proofs.Manifest.Nodes
import RecordFlow.Proofs.CommandLine.Agreement
import RecordFlow.Proofs.Json.Relations
import RecordFlow.Proofs.Operator.Selection
import RecordFlow.Proofs.Operator.Partition
import RecordFlow.Proofs.Json.Labels
import RecordFlow.Proofs.Operator.Histogram
import RecordFlow.Proofs.Binary64.Value
import RecordFlow.Proofs.Binary64.Powers
import RecordFlow.Proofs.Binary64.Logarithm
import RecordFlow.Proofs.Operator.Bin
import RecordFlow.Proofs.Operator.Numbers
import RecordFlow.Proofs.Operator.Coarsening
import RecordFlow.Proofs.Operator.Summaries
import RecordFlow.Proofs.Resolution.Counts
import RecordFlow.Proofs.Resolution.Layers
import RecordFlow.Proofs.Graph.Undeclared
import RecordFlow.Proofs.Literal.Continuation
import RecordFlow.Proofs.Manifest.Bodies
import RecordFlow.Proofs.Text.Lines
import RecordFlow.Proofs.Manifest.Layout
import RecordFlow.Proofs.Binary64.Nearest
import RecordFlow.Proofs.Literal.Places
import RecordFlow.Proofs.Literal.Spelling
import RecordFlow.Proofs.Text.Offsets
import RecordFlow.Proofs.Literal.Cursor
import RecordFlow.Proofs.Literal.Runs
import RecordFlow.Proofs.Literal.Scans
import RecordFlow.Proofs.Literal.Located
import RecordFlow.Proofs.Manifest.Pipeline
import RecordFlow.Proofs.Operator.Literals
import RecordFlow.Proofs.Pattern.Flags
import RecordFlow.Proofs.Literal.Defences
import RecordFlow.Proofs.Schema.History
