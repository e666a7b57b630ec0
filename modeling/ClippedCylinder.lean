import ClippedCylinder.Text.Blank
import ClippedCylinder.Text.WordChar
import ClippedCylinder.Text.Printable
import ClippedCylinder.Text.Quoted
import ClippedCylinder.Text.Pattern
import ClippedCylinder.Decimal.Binary
import ClippedCylinder.Decimal.Shortest
import ClippedCylinder.Decimal.Rounded
import ClippedCylinder.Decimal.Format
import ClippedCylinder.Scalar.Basic
import ClippedCylinder.Scalar.Double
import ClippedCylinder.Geometry.Vec3
import ClippedCylinder.Fault
import ClippedCylinder.Fault.Message
import ClippedCylinder.Scalar.Checked
import ClippedCylinder.Geometry.Length
import ClippedCylinder.Expression.Numeral
import ClippedCylinder.Expression.Token
import ClippedCylinder.Expression.Tree
import ClippedCylinder.Expression.Parser
import ClippedCylinder.Expression.Function
import ClippedCylinder.Expression.Evaluate
import ClippedCylinder.Geometry.Plane
import ClippedCylinder.Trace
import ClippedCylinder.Expression.HalfSpace
import ClippedCylinder.Descriptor
import ClippedCylinder.Spec
import ClippedCylinder.Clause.Basic
import ClippedCylinder.Clause.Classify
import ClippedCylinder.Clause.Interpret
import ClippedCylinder.Geometry.Matrix3
import ClippedCylinder.Geometry.Elimination
import ClippedCylinder.Geometry.AffineMap
import ClippedCylinder.Geometry.HalfSpace
import ClippedCylinder.Geometry.Table
import ClippedCylinder.TypeName
import ClippedCylinder.Placement.Direction
import ClippedCylinder.Placement.Rotation
import ClippedCylinder.Placement.Frame
import ClippedCylinder.Placement.Basic
import ClippedCylinder.Cylinder.Basic
import ClippedCylinder.Cylinder.Containment
import ClippedCylinder.Cylinder.Summary
import ClippedCylinder.CommandLine.Arguments
import ClippedCylinder.CommandLine.Log
import ClippedCylinder.CommandLine.Session
import ClippedCylinder.Main
import ClippedCylinder.Proofs.Exact.Scalar
import ClippedCylinder.Proofs.Exact.Vec3
import ClippedCylinder.Proofs.Exact.Matrix3
import ClippedCylinder.Proofs.Exact.Elimination
import ClippedCylinder.Proofs.Outcome
import ClippedCylinder.Proofs.Exact.AffineMap
import ClippedCylinder.Proofs.Exact.Rotation
import ClippedCylinder.Proofs.Exact.Placement
import ClippedCylinder.Proofs.Exact.Assembly
import ClippedCylinder.Proofs.Exact.Clipping
import ClippedCylinder.Proofs.Exact.Round
import ClippedCylinder.Proofs.Expression.Grammar
import ClippedCylinder.Proofs.Expression.Take
import ClippedCylinder.Proofs.Expression.Soundness
import ClippedCylinder.Proofs.Expression.Completeness
import ClippedCylinder.Proofs.Expression.Unambiguity
import ClippedCylinder.Proofs.Expression.Parsing
import ClippedCylinder.Proofs.Text.Trim
import ClippedCylinder.Proofs.Expression.Numeral
import ClippedCylinder.Proofs.Expression.Layout
import ClippedCylinder.Proofs.Expression.Writing
import ClippedCylinder.Proofs.Expression.Evaluation
import ClippedCylinder.Proofs.Clause.Interpretation
import ClippedCylinder.Proofs.Exact.Bound
import ClippedCylinder.Proofs.Cylinder.Rejection
import ClippedCylinder.Proofs.Text.Pattern
import ClippedCylinder.Proofs.Clause.Classification
import ClippedCylinder.Proofs.Text.Fields
import ClippedCylinder.Proofs.Cylinder.Strictness
import ClippedCylinder.Proofs.Cylinder.Layout
import ClippedCylinder.Proofs.Cylinder.Header
import ClippedCylinder.Proofs.Expression.Longest
import ClippedCylinder.Proofs.Expression.Lowering
import ClippedCylinder.Proofs.Expression.LoweredTree
import ClippedCylinder.Proofs.Expression.Recasing
import ClippedCylinder.Proofs.Exact.CoordinateBound
import ClippedCylinder.Proofs.CommandLine.Log
import ClippedCylinder.Proofs.Text.Document
import ClippedCylinder.Proofs.Decimal.Shortest
import ClippedCylinder.Proofs.Decimal.Format
import ClippedCylinder.Proofs.Cylinder.Summary
import ClippedCylinder.Proofs.CommandLine.Run
import ClippedCylinder.Proofs.CommandLine.Process
import ClippedCylinder.Proofs.Clause.Patterns
import ClippedCylinder.Proofs.Clause.Parts
import ClippedCylinder.Proofs.Exact.Alignment
import ClippedCylinder.Proofs.Exact.Frame
import ClippedCylinder.Proofs.Exact.Oblique
import ClippedCylinder.Proofs.Exact.WrittenBound
import ClippedCylinder.Proofs.Exact.Scaling
import ClippedCylinder.Proofs.Clause.Finiteness
import ClippedCylinder.Proofs.Exact.Mask
import ClippedCylinder.Proofs.Exact.Growth
import ClippedCylinder.Proofs.Exact.Translation
