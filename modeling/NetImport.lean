import NetImport.Descriptor.Arguments
import NetImport.Descriptor.Builder
import NetImport.Descriptor.File
import NetImport.Descriptor.Leaf
import NetImport.Descriptor.Literal
import NetImport.Descriptor.Message
import NetImport.Descriptor.NumberList
import NetImport.Descriptor.Operator
import NetImport.Descriptor.Piece
import NetImport.Descriptor.Schema
import NetImport.Descriptor.Text.Escape
import NetImport.Descriptor.Text.Numeral
import NetImport.Descriptor.Text.Printer
import NetImport.Descriptor.Text.Reader
import NetImport.Descriptor.Text.Token
import NetImport.Descriptor.Wire.Decode
import NetImport.Descriptor.Wire.Encode
import NetImport.Descriptor.Wire.Field
import NetImport.Descriptor.Wire.Varint
import NetImport.Error
import NetImport.Graph.Basic
import NetImport.Graph.Factory
import NetImport.Import
import NetImport.Label
import NetImport.Lowering.Network
import NetImport.Lowering.Rule
import NetImport.Lowering.Session
import NetImport.Notice
import NetImport.Number.Binary
import NetImport.Number.Decimal
import NetImport.Number.Format
import NetImport.Number.Numeral
import NetImport.Number.Shortest
import NetImport.Number.Word
import NetImport.Registry
import NetImport.Shape
import NetImport.Tensor.Basic
import NetImport.Tensor.Cell
import NetImport.Tensor.CommonType
import NetImport.Tensor.Description
import NetImport.Tensor.ElementName
import NetImport.Tensor.ElementType
import NetImport.Tensor.FieldList
import NetImport.Tensor.Index
import NetImport.Tensor.Item
import NetImport.Tensor.NumericArray
import NetImport.Tensor.Quantity
import NetImport.Tensor.Store
import NetImport.Tensor.TimeStep
import NetImport.Tensor.Transpose
import NetImport.Text.Blank
import NetImport.Text.CharacterName
import NetImport.Text.Constant
import NetImport.Text.Digit
import NetImport.Text.Printable
import NetImport.Text.Quoted
import NetImport.Text.Utf8
import NetImport.Weights
import NetImport.Proofs.Graph.Factory
import NetImport.Proofs.Graph.Faults
import NetImport.Proofs.Lowering.Session
import NetImport.Proofs.Lowering.Atomicity
import NetImport.Proofs.Lowering.Network
import NetImport.Proofs.Lowering.Confinement
import NetImport.Proofs.Lowering.Emission
import NetImport.Proofs.Graph.Closure
import NetImport.Proofs.Graph.Typing
import NetImport.Proofs.Lowering.Admission
import NetImport.Proofs.Lowering.Calls
import NetImport.Proofs.Lowering.Soundness
import NetImport.Proofs.Graph.Evaluation
import NetImport.Proofs.Lowering.Interpretation
import NetImport.Proofs.Lowering.Refinement
import NetImport.Proofs.Weights
import NetImport.Proofs.Lowering.Parameters
import NetImport.Proofs.Descriptor.Message
import NetImport.Proofs.Descriptor.RoundTrip
import NetImport.Proofs.Descriptor.File
import NetImport.Proofs.Lowering.Layout
import NetImport.Proofs.Import.Isolation
import NetImport.Proofs.Import.Inputs
import NetImport.Proofs.Lowering.Faults
import NetImport.Proofs.Import.Failures
import NetImport.Proofs.Number.Binary
import NetImport.Proofs.Number.Shortest
import NetImport.Proofs.Number.Numeral
import NetImport.Proofs.Descriptor.Text.Escape
import NetImport.Proofs.Descriptor.Text.Numeral
import NetImport.Proofs.Descriptor.Text.Token
import NetImport.Proofs.Descriptor.Text.RoundTrip
import NetImport.Proofs.Descriptor.Text.File
import NetImport.Proofs.Descriptor.Arguments
import NetImport.Proofs.Tensor.Casting
import NetImport.Proofs.Descriptor.Builder
import NetImport.Proofs.Lowering.Acceptance
import NetImport.Proofs.Lowering.Fidelity
import NetImport.Proofs.Likeness.Steps
import NetImport.Proofs.Likeness.Session
import NetImport.Proofs.Likeness.Graph
import NetImport.Proofs.Likeness.Lowering
import NetImport.Proofs.Import.Progress
import NetImport.Proofs.Likeness.Import
import NetImport.Proofs.Import.Renaming
import NetImport.Proofs.Import.Contents
import NetImport.Proofs.Lowering.Pooling
import NetImport.Proofs.Lowering.Channels
import NetImport.Proofs.Lowering.Broadcasting
import NetImport.Proofs.Descriptor.Variants
import NetImport.Proofs.Lowering.Promotion
import NetImport.Proofs.Lowering.Stability
import NetImport.Proofs.Lowering.Variadic
import NetImport.Proofs.Lowering.Windows
import NetImport.Proofs.Import.Listing
import NetImport.Proofs.Graph.Construction
import NetImport.Proofs.Descriptor.Literal
import NetImport.Proofs.Graph.Extents
import NetImport.Proofs.Descriptor.ReadBack
import NetImport.Proofs.Shape.Positions
import NetImport.Proofs.Graph.Squeeze
import NetImport.Proofs.Tensor.Transpose
import NetImport.Proofs.Handles
