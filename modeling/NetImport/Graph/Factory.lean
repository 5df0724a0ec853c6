import NetImport.Graph.Basic
import NetImport.Tensor.NumericArray

/-!
# Building graphs

Every kind of variable and node has a factory, which checks the shapes of its operands and appends
what it makes. A factory either fails, and has then added nothing, or appends one thing; a batch
normalisation also appends its four parameter variables and a save node the variable it writes.
-/

namespace NetImport

/-- Steps that extend a graph or fail. -/
abbrev Build := EStateM Error Graph

/-- Lets an operation that does not touch the graph be a step. -/
def Build.ofResult {α : Type} : Except Error α → Build α
  | .ok value => pure value
  | .error error => throw error

/-- Fails because of a fault in shapes or parameters. -/
def Build.fault {α : Type} (fault : ShapeFault) : Build α := throw (.invalid fault)

/-- Fails because of a fault unless a condition holds. -/
def Build.require (condition : Prop) [Decidable condition] (fault : ShapeFault) : Build Unit :=
  if condition then pure () else Build.fault fault

namespace Graph

open Build (ofResult fault require)

/-- The shape of what a reference denotes in the graph so far. -/
def shape (ref : Ref) : Build Shape := return (← get).shapeOf ref

/-! ## Variables and functions -/

def createFunction (name : String) : Build Nat :=
  modifyGet fun graph =>
    (graph.functions.length, { graph with functions := graph.functions ++ [name] })

def addVariable (name : Label) (payload : Tensor) (visibility : Visibility) (train : TrainKind) :
    Build Nat :=
  modifyGet fun graph =>
    (graph.vars.length,
      { graph with vars := graph.vars ++ [⟨name, visibility, train, payload⟩] })

/-- Appends a variable whose cells all hold one number. -/
def createFilled (name : Label) (shape : Shape) (value : Binary32) (visibility : Visibility)
    (train : TrainKind) : Build Nat := do
  let payload ← ofResult (Tensor.filled shape value)
  addVariable name payload visibility train

def createVariable (name : Label) (shape : Shape) (visibility : Visibility) (train : TrainKind) :
    Build Nat :=
  createFilled name shape .zero visibility train

/-- The variable into which numbers of a shape, which has to be its own, are to be copied. -/
def copyTarget (index : Nat) (source : Shape) : Build Variable := do
  match (← get).vars[index]? with
  | none => throw .positionOutOfRange
  | some target =>
    require (source = target.shape) (.copyMismatch source target.name.shown target.shape)
    return target

/-- Replaces the tensor that a variable holds by one of the same shape. -/
def copyFrom (index : Nat) (source : Tensor) : Build Unit := do
  let target ← copyTarget index source.shape
  modify fun graph => { graph with vars := graph.vars.set index { target with payload := source } }

/--
Replaces the tensor that a variable holds by an array of the same shape, cast to a tensor. The array
is read through a description of its bytes.
-/
def copyArray (index : Nat) (source : NumericArray) : Build Unit := do
  let source ← ofResult source.shared
  let _ ← copyTarget index source.shape
  copyFrom index (← ofResult source.cast)

/--
Appends a variable for an array, whose element type has to be that of tensors, and copies the array
into it.
-/
def addArray (name : Label) (array : NumericArray) (visibility : Visibility) : Build Nat := do
  ofResult array.element.check
  let index ← createVariable name array.shape visibility .broadcast
  copyArray index array
  return index

/-! ## Nodes -/

def addNode (function : Nat) (name : Label) (operation : Operation) (operands : List Ref)
    (shape : Shape) : Build Ref :=
  modifyGet fun graph =>
    (.node graph.nodes.length,
      { graph with nodes := graph.nodes ++ [⟨function, name, operation, operands, shape⟩] })

variable (function : Nat) (name : Label)

/-- A node that applies an operation to each number of its operand. -/
def createElementwise (operation : Operation) (input : Ref) : Build Ref := do
  addNode function name operation [input] (← shape input)

def createRelu (input : Ref) : Build Ref := createElementwise function name .relu input

def createSigmoid (input : Ref) : Build Ref := createElementwise function name .sigmoid input

def createTanh (input : Ref) : Build Ref := createElementwise function name .tanh input

def createTranspose (input : Ref) (permutation : List Int) : Build Ref := do
  let permuted ← ofResult (ofShapeResult ((← shape input).permute permutation))
  addNode function name (.transpose permutation) [input] permuted

/-- The four extents of a shape of rank four. -/
def requireRankFour (operation : String) (operand : Shape) : Build (Int × Int × Int × Int) :=
  match operand with
  | [first, second, third, fourth] => pure (first, second, third, fourth)
  | _ => fault (.wrongRank operation 4 operand)

def windowExtents (window : Window) (height width : Int) : Build (Int × Int) :=
  ofResult (ofShapeResult (Shape.windowOutput height width window.kernel window.stride window.pad))

/--
Convolution with channels last: the operand is `[n, h, w, c]`, the filter
`[depth, kernel, kernel, c / group]`, the bias `[depth]` and the result `[n, oh, ow, depth]`.
-/
def createConvolution (input filter bias : Ref) (output : Shape) (window : Window) (group : Int) :
    Build Ref := do
  let (batch, height, width, channels) ← requireRankFour "Convolution" (← shape input)
  require (0 < group ∧ channels % group = 0) (.channelsNotDivisible channels group)
  match output[3]? with
  | none => throw .positionOutOfRange
  | some depth =>
    require (depth % group = 0) (.depthNotDivisible depth group)
    let filterShape := [depth, window.kernel, window.kernel, channels / group]
    require ((← shape filter) = filterShape) (.filterMismatch (← shape filter) filterShape)
    require ((← shape bias) = [depth]) (.biasMismatch (← shape bias) depth)
    let (outHeight, outWidth) ← windowExtents window height width
    let expected := [batch, outHeight, outWidth, depth]
    require (output = expected) (.outputMismatch output expected)
    addNode function name (.convolution window group) [input, filter, bias] output

/-- Pooling over windows of an operand with channels last. -/
def createPool (operation : Operation) (window : Window) (input : Ref) : Build Ref := do
  let (batch, height, width, channels) ← requireRankFour operation.kind.text (← shape input)
  let (outHeight, outWidth) ← windowExtents window height width
  addNode function name operation [input] [batch, outHeight, outWidth, channels]

/-- Maximum over windows. -/
def createPoolMax (input : Ref) (window : Window) : Build Ref :=
  createPool function name (.poolMax window) window input

/-- Average over windows. -/
def createPoolAvg (input : Ref) (window : Window) : Build Ref :=
  createPool function name (.poolAvg window) window input

/-- The weight of the past in running averages: nine tenths. -/
def defaultMomentum : Binary64 := (Decimal.mk false 9 (-1)).toBinary64

/--
Batch normalisation over the channels of an axis. Its operands are the input and four new variables
of one number per channel: scale and variance start at one, bias and mean at zero.
-/
def createBatchNormalization (input : Ref) (channel : Int) (epsilon momentum : Binary64) :
    Build Ref := do
  let operand ← shape input
  require (0 ≤ channel ∧ channel < operand.length) (.channelOutOfRange channel operand)
  let channels : Shape := [operand.extentAt channel]
  let scale ← createFilled (name.part ".scale") channels .one .internal .broadcast
  let bias ← createFilled (name.part ".bias") channels .zero .internal .broadcast
  let mean ← createFilled (name.part ".mean") channels .zero .internal .broadcast
  let variance ← createFilled (name.part ".var") channels .one .internal .broadcast
  addNode function name (.batchNormalization channel epsilon momentum)
    [input, .var scale, .var bias, .var mean, .var variance] operand

/-- Whether two shapes have the same rank and agree on every axis but one. -/
def agreeBeside (dimension : Nat) (first other : Shape) : Bool :=
  first.length = other.length && first.set dimension 0 = other.set dimension 0

/-- Joins operands along an axis; they must agree on all other axes. -/
def createConcat (inputs : List Ref) (dimension : Int) : Build Ref := do
  match inputs.map (← get).shapeOf with
  | [] => fault .concatWithoutInputs
  | first :: others =>
    require (0 ≤ dimension ∧ dimension < first.length) (.concatOutOfRange dimension first)
    match others.find? fun other => !agreeBeside dimension.toNat first other with
    | some other => fault (.concatInputsDiffer first other)
    | none =>
      let extents := (first :: others).map fun shape => shape.extentAt dimension
      let joined := extents.foldr (· + ·) 0
      addNode function name (.concat dimension) inputs (first.set dimension.toNat joined)

/-- Combines two operands of the same shape number by number. -/
def createPairwise (operation : Operation) (left right : Ref) : Build Ref := do
  let leftShape ← shape left
  let rightShape ← shape right
  require (leftShape = rightShape) (.operandsDiffer operation.kind.text leftShape rightShape)
  addNode function name operation [left, right] leftShape

def createAdd (left right : Ref) : Build Ref := createPairwise function name .add left right

def createMul (left right : Ref) : Build Ref := createPairwise function name .mul left right

/--
Whether an operand can be expanded to a shape when its first axis is aligned with an axis of it.
-/
def broadcastable (operand target : Shape) (axis : Int) : Bool :=
  0 ≤ axis && axis + operand.length ≤ target.length &&
    (operand.zip (target.drop axis.toNat)).all fun (extent, expanded) =>
      extent = 1 || extent = expanded

/-- Expands an operand to a shape, its first axis aligned with an axis of that shape. -/
def createBroadcast (input : Ref) (target : Shape) (axis : Int) : Build Ref := do
  let operand ← shape input
  require (broadcastable operand target axis) (.cannotBroadcast operand target axis)
  addNode function name (.broadcast axis) [input] target

/-- Normalised exponentials, compared with the selected classes. -/
def createSoftmax (input selected : Ref) : Build Ref := do
  addNode function name .softmax [input, selected] (← shape input)

/-- Gives the numbers of an operand another shape of the same element count. -/
def createReshape (input : Ref) (target : Shape) : Build Ref := do
  let operand ← shape input
  require (target.size = operand.size) (.cannotReshape operand target)
  addNode function name (.reshape target) [input] target

/-- Matrix product of the operand, flattened behind its first axis, with weights, plus a bias. -/
def createFullyConnected (input weights bias : Ref) : Build Ref := do
  let (batch, features) ← ofResult (ofShapeResult (← shape input).flattenRest)
  match ← shape weights with
  | [rows, depth] =>
    require (rows = features) (.weightsMismatch [rows, depth] features)
    require ((← shape bias) = [depth]) (.weightBiasMismatch (← shape bias) depth)
    addNode function name .fullyConnected [input, weights, bias] [batch, depth]
  | other => fault (.weightsMismatch other features)

/-- Normalisation over neighbouring channels, which are the last axis. -/
def createLocalResponseNormalization (input : Ref) (halfWindow : Int) (alpha beta bias : Binary64) :
    Build Ref := do
  let operand ← shape input
  let _ ← requireRankFour "LocalResponseNormalization" operand
  addNode function name (.localResponseNormalization halfWindow alpha beta bias) [input] operand

/-- Interleaves the groups of channels of an axis. -/
def createChannelShuffle (input : Ref) (group axis : Int) : Build Ref := do
  let operand ← shape input
  require (0 ≤ axis ∧ axis < operand.length) (.shuffleOutOfRange axis operand)
  require (0 < group ∧ operand.extentAt axis % group = 0) (.shuffleGroup group operand)
  addNode function name (.channelShuffle group axis) [input] operand

/-- The given axes in ascending order, each once. -/
def sortedAxes (axes : List Int) : List Int := (axes.mergeSort (· ≤ ·)).eraseDups

/-- The extents on the axes that are not listed. -/
def dropAxes (operand : Shape) (axes : List Int) : Shape :=
  (operand.zipIdx.filter fun (_, axis) => (axis : Int) ∉ axes).map Prod.fst

/-- Whether an axis of a shape has extent one, so that it can be dropped. -/
def squeezable (operand : Shape) (axis : Int) : Bool :=
  0 ≤ axis && axis < operand.length && operand.extentAt axis = 1

def createSqueeze (input : Ref) (axes : List Int) : Build Ref := do
  let operand ← shape input
  let axes := sortedAxes axes
  match axes.find? fun axis => !squeezable operand axis with
  | some axis => fault (.cannotSqueeze axis operand)
  | none => addNode function name (.squeeze axes) [input] (dropAxes operand axes)

/-- Writes an operand to a new variable that the caller sees. -/
def createSave (input : Ref) : Build Ref := do
  let operand ← shape input
  let output ← createVariable (name.part ".var") operand .external .none
  addNode function name (.save output) [input] operand

end Graph

end NetImport
