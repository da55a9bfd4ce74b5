import SelectionAlgebra.Text.Alphanumeric
import SelectionAlgebra.Text.Blank
import SelectionAlgebra.Text.ByteLength
import SelectionAlgebra.Text.Unprintable
import SelectionAlgebra.Keyed
import SelectionAlgebra.Named
import SelectionAlgebra.Text.Quoted
import SelectionAlgebra.Double.Basic
import SelectionAlgebra.Double.Arithmetic
import SelectionAlgebra.Double.Decimal
import SelectionAlgebra.Double.Shortest
import SelectionAlgebra.Double.Layout
import SelectionAlgebra.Expr.Basic
import SelectionAlgebra.Expr.Printer
import SelectionAlgebra.Expr.Parser
import SelectionAlgebra.Expr.Compiled
import SelectionAlgebra.Mask.Basic
import SelectionAlgebra.Mask.Evaluate
import SelectionAlgebra.Kind
import SelectionAlgebra.Data
import SelectionAlgebra.Error
import SelectionAlgebra.Edit
import SelectionAlgebra.TupleArray
import SelectionAlgebra.Property
import SelectionAlgebra.Node.Basic
import SelectionAlgebra.Node.Matching
import SelectionAlgebra.Node.Union
import SelectionAlgebra.Node.Difference
import SelectionAlgebra.Selection.Basic
import SelectionAlgebra.Selection.Evaluate
import SelectionAlgebra.Selection.Merge
import SelectionAlgebra.Geometry.Point
import SelectionAlgebra.Geometry.Frustum
import SelectionAlgebra.Dataset
import SelectionAlgebra.Resolve.Ids
import SelectionAlgebra.Resolve.Ranges
import SelectionAlgebra.Resolve.Options
import SelectionAlgebra.Resolve.Node
import SelectionAlgebra.Convert.Node
import SelectionAlgebra.Convert.Selection
import SelectionAlgebra.Json.Value
import SelectionAlgebra.Json.Scanner
import SelectionAlgebra.Json.Reader
import SelectionAlgebra.Stored.Data
import SelectionAlgebra.Stored.Property
import SelectionAlgebra.Stored.Selection
import SelectionAlgebra.Stored.Expr
import SelectionAlgebra.Config.Basic
import SelectionAlgebra.Config.Json
import SelectionAlgebra.Toml.Item
import SelectionAlgebra.Toml.Reader
import SelectionAlgebra.Config.Toml
import SelectionAlgebra.Proofs.Grammar.Basic
import SelectionAlgebra.Proofs.Grammar.Soundness
import SelectionAlgebra.Proofs.Grammar.Completeness
import SelectionAlgebra.Proofs.Grammar.Exactness
import SelectionAlgebra.Proofs.Grammar.Display
import SelectionAlgebra.Proofs.Grammar.Parentheses
import SelectionAlgebra.Proofs.Grammar.Stopping
import SelectionAlgebra.Proofs.Grammar.Faults
import SelectionAlgebra.Proofs.Grammar.Viability
import SelectionAlgebra.Proofs.Expr.Names
import SelectionAlgebra.Proofs.Failure
import SelectionAlgebra.Proofs.Mask.Columns
import SelectionAlgebra.Proofs.Resolve.Positions
import SelectionAlgebra.Proofs.Selection.Meaning
import SelectionAlgebra.Proofs.Edit
import SelectionAlgebra.Proofs.Node.Shape
import SelectionAlgebra.Proofs.Selection.Union
import SelectionAlgebra.Proofs.Data
import SelectionAlgebra.Proofs.Resolve.Lists
import SelectionAlgebra.Proofs.Resolve.Union
import SelectionAlgebra.Proofs.Node.Difference
import SelectionAlgebra.Proofs.Selection.Difference
import SelectionAlgebra.Proofs.Mask.Evaluation
import SelectionAlgebra.Proofs.Mask.Program
import SelectionAlgebra.Proofs.Convert.Gather
import SelectionAlgebra.Proofs.Convert.Node
import SelectionAlgebra.Proofs.Convert.Values
import SelectionAlgebra.Proofs.Convert.FirstValues
import SelectionAlgebra.Proofs.Convert.Selection
import SelectionAlgebra.Proofs.Resolve.Difference
import SelectionAlgebra.Proofs.Resolve.Complement
import SelectionAlgebra.Selection.Session
import SelectionAlgebra.Proofs.Selection.Cache
import SelectionAlgebra.Proofs.Named
import SelectionAlgebra.Proofs.Selection.Catalog
import SelectionAlgebra.Proofs.Selection.Refusal
import SelectionAlgebra.Proofs.Selection.Supplied
import SelectionAlgebra.Proofs.Selection.Coverage
import SelectionAlgebra.Proofs.Json.Scanning
import SelectionAlgebra.Proofs.Json.Readers
import SelectionAlgebra.Proofs.Stored.RoundTrip
import SelectionAlgebra.Proofs.Newcomers
import SelectionAlgebra.Proofs.Node.Counterparts
import SelectionAlgebra.Proofs.Node.Repetition
import SelectionAlgebra.Proofs.Node.Survivors
import SelectionAlgebra.Proofs.Property
import SelectionAlgebra.Proofs.Node.Agreement
import SelectionAlgebra.Proofs.Convert.Forgiveness
import SelectionAlgebra.Proofs.Double.Rounding
import SelectionAlgebra.Proofs.Resolve.Thresholds
import SelectionAlgebra.Proofs.Grammar.Names
import SelectionAlgebra.Proofs.Text.ByteOrder
import SelectionAlgebra.Proofs.History
import SelectionAlgebra.Proofs.Keyed
import SelectionAlgebra.Proofs.Dataset
import SelectionAlgebra.Proofs.Bag
import SelectionAlgebra.Proofs.Node.Tuples
import SelectionAlgebra.Proofs.Selection.Tuples
import SelectionAlgebra.Proofs.Convert.Tuples
