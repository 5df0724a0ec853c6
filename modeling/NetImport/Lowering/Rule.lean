import NetImport.Descriptor.Arguments
import NetImport.Lowering.Session

/-!
# Lowering rules

Every supported type of operator has a rule, which resolves the operator's inputs, reads its
arguments and builds the nodes that compute its result. Operators work on tensors whose channels are
the second axis, spatial nodes on tensors whose channels are the last one, so that a spatial rule
puts a transposition in front of its node and one behind it.
-/

namespace NetImport

open Descriptor

/-- The types of operator that can be lowered. -/
inductive OperatorKind where
  | relu
  | sigmoid
  | tanh
  | dropout
  | conv
  | maxPool
  | averagePool
  | spatialBN
  | concat
  | sum
  | mul
  | add
  | softmax
  | fc
  | lrn
  | channelShuffle
  | squeeze
  deriving DecidableEq, Repr

namespace OperatorKind

def all : List OperatorKind :=
  [relu, sigmoid, tanh, dropout, conv, maxPool, averagePool, spatialBN, concat, sum, mul, add,
    softmax, fc, lrn, channelShuffle, squeeze]

/-- The type by which a descriptor names a kind of operator. -/
def type : OperatorKind → String
  | relu => "Relu"
  | sigmoid => "Sigmoid"
  | tanh => "Tanh"
  | dropout => "Dropout"
  | conv => "Conv"
  | maxPool => "MaxPool"
  | averagePool => "AveragePool"
  | spatialBN => "SpatialBN"
  | concat => "Concat"
  | sum => "Sum"
  | mul => "Mul"
  | add => "Add"
  | softmax => "Softmax"
  | fc => "FC"
  | lrn => "LRN"
  | channelShuffle => "ChannelShuffle"
  | squeeze => "Squeeze"

/-- The kind of operator of a type. -/
def ofLabel? (type : Label) : Option OperatorKind := all.find? fun kind => .text kind.type = type

end OperatorKind

namespace Lower

/-- Moves the channels from the second axis to the last one. -/
def channelsLast : List Int := [0, 2, 3, 1]

/-- Moves the channels from the last axis to the second one. -/
def channelsFirst : List Int := [0, 3, 1, 2]

/-- Moves the input channels of stored filters from the second axis to the last one. -/
def filterChannelsLast : List Int := [0, 2, 3, 1]

/-- The variance epsilon of a batch normalisation that does not give one: ten to the minus five. -/
def defaultEpsilon : Binary64 := (Decimal.mk false 1 (-5)).toBinary64

/-- The arguments that give the padding of single sides. -/
def sidePads : List String := ["pad_l", "pad_r", "pad_t", "pad_b"]

/-- Refuses arguments that give the padding of single sides. -/
def refuseSidePads (arguments : Arguments) : Lower Unit :=
  let present := sidePads.filter arguments.contains
  if present = [] then pure () else throw (.sidePadding present arguments.operatorType)

variable (setting : Setting) (operator : Operator) (arguments : Arguments)

/-- What the name in an input slot denotes. -/
def resolveInput (slot : Nat) : Lower Ref := do resolve (← ofResult (operator.input slot))

/-- The stored tensor named in an input slot. -/
def inputTensor (slot : Nat) : Lower Tensor := do tensor (← ofResult (operator.input slot))

def resolveAll : List Label → Lower (List Ref)
  | [] => pure []
  | name :: names => do
    let ref ← resolve name
    return ref :: (← resolveAll names)

/-- An operation on each number of the input. -/
def elementwise (operation : Operation) : Lower Ref := do
  let input ← resolveInput operator 0
  let title := operator.title
  onGraph (Graph.createElementwise setting.function title operation input)

/-- Dropout changes nothing outside training. -/
def dropout : Lower Ref := resolveInput operator 0

/-- The four extents of what a reference denotes, a missing one counting as one. -/
def extents (ref : Ref) : Lower (Int × Int × Int × Int) := do
  let shape ← shape ref
  return (shape.extentAt 0, shape.extentAt 1, shape.extentAt 2, shape.extentAt 3)

/-- Copies the stored tensor of an optional name, if there is one, into a variable. -/
def copyStored (index : Nat) : Option Label → Lower Unit
  | none => pure ()
  | some name => do
    if (← get).tensors.contains name then
      onGraph (Graph.copyFrom index (← tensor name))

/--
The bias of a convolution: a variable of zeros, or of a copy of the stored tensor that the third
input names.
-/
def convolutionBias (depth : Int) : Lower Nat := do
  let title := operator.title
  let bias ← onGraph (Graph.createVariable (title.part ".bias") [depth] .internal .broadcast)
  copyStored bias operator.inputs[2]?
  return bias

/-- Convolution. The stored filter is transposed into a variable. -/
def convolution : Lower Ref := do
  let stride ← ofResult (arguments.int "stride" (some 1))
  let pad ← ofResult (arguments.int "pad" (some 0))
  let kernel ← ofResult (arguments.int "kernel" none)
  let group ← ofResult (arguments.int "group" (some 1))
  refuseSidePads arguments
  let title := operator.title
  let input ← resolveInput operator 0
  let weights ← ofResult ((← inputTensor operator 1).transpose filterChannelsLast)
  let depth := weights.shape.extentAt 0
  let filter ← onGraph (Graph.addVariable (title.part ".filter") weights .internal .broadcast)
  let bias ← convolutionBias operator depth
  let transposed ← onGraph (Graph.createTranspose setting.function title input channelsLast)
  let (batch, height, width, _) ← extents transposed
  let window : Window := ⟨kernel, stride, pad⟩
  let (outHeight, outWidth) ← onGraph (Graph.windowExtents window height width)
  let convolved ← onGraph (Graph.createConvolution setting.function title transposed (.var filter)
    (.var bias) [batch, outHeight, outWidth, depth] window group)
  onGraph (Graph.createTranspose setting.function title convolved channelsFirst)

/--
Pooling; a global pooling takes the whole spatial extent, which must be square, as its kernel.
-/
def pooling (operation : Window → Operation) : Lower Ref := do
  let stride ← ofResult (arguments.int "stride" none)
  let kernel ← ofResult (arguments.int "kernel" none)
  let pad ← ofResult (arguments.int "pad" (some 0))
  refuseSidePads arguments
  let title := operator.title
  let input ← resolveInput operator 0
  let transposed ← onGraph (Graph.createTranspose setting.function title input channelsLast)
  let isGlobal ← ofResult (arguments.int "global_pooling" (some 0))
  let (_, height, width, _) ← extents transposed
  if isGlobal ≠ 0 ∧ height ≠ width then throw (.nonSquareGlobalPooling height width)
  let window : Window := ⟨if isGlobal ≠ 0 then height else kernel, stride, pad⟩
  let pooled ←
    onGraph (Graph.createPool setting.function title (operation window) window transposed)
  onGraph (Graph.createTranspose setting.function title pooled channelsFirst)

def localResponseNormalization : Lower Ref := do
  let size ← ofResult (arguments.int "size" none)
  let alpha ← ofResult (arguments.float "alpha" none)
  let beta ← ofResult (arguments.float "beta" none)
  let bias ← ofResult (arguments.float "bias" none)
  let title := operator.title
  let input ← resolveInput operator 0
  let transposed ← onGraph (Graph.createTranspose setting.function title input channelsLast)
  let normalized ← onGraph (Graph.createLocalResponseNormalization setting.function title transposed
    (Int.fdiv size 2) alpha beta bias)
  onGraph (Graph.createTranspose setting.function title normalized channelsFirst)

/-- Replaces what a variable holds, if the reference is to a variable. -/
def fill (ref : Ref) (source : Tensor) : Lower Unit :=
  match ref with
  | .var index => onGraph (Graph.copyFrom index source)
  | .node _ => throw .positionOutOfRange

/-- A node of batch normalisation whose parameters hold the given tensors. -/
def filledNormalization (input : Ref) (channel : Int) (epsilon : Binary64)
    (scale bias mean variance : Tensor) : Lower Ref := do
  let node ← onGraph (Graph.createBatchNormalization setting.function operator.title input channel
    epsilon Graph.defaultMomentum)
  match (← get).graph.operandsOf node with
  | [_, scaleVar, biasVar, meanVar, varianceVar] => do
    fill scaleVar scale
    fill biasVar bias
    fill meanVar mean
    fill varianceVar variance
    return node
  | _ => throw .positionOutOfRange

/-- Batch normalisation; its inputs are data, scale, bias, mean and variance. -/
def batchNormalization : Lower Ref := do
  let input ← resolveInput operator 0
  let scale ← inputTensor operator 1
  let bias ← inputTensor operator 2
  let mean ← inputTensor operator 3
  let variance ← inputTensor operator 4
  let epsilon ← ofResult (arguments.float "epsilon" (some defaultEpsilon))
  let channel ← ofResult arguments.channelAxis
  filledNormalization setting operator input channel epsilon scale bias mean variance

/-- Concatenation along the channels. -/
def concatenation : Lower Ref := do
  let inputs ← resolveAll operator.inputs
  let channel ← ofResult arguments.channelAxis
  let title := operator.title
  onGraph (Graph.createConcat setting.function title inputs channel)

/-- Product or sum of two inputs, the second one expanded to the shape of the first if asked for. -/
def arithmetic (operation : Operation) : Lower Ref := do
  let title := operator.title
  let left ← resolveInput operator 0
  let right ← resolveInput operator 1
  let broadcast ← ofResult (arguments.int "broadcast" none)
  if broadcast = 0 then
    onGraph (Graph.createPairwise setting.function title operation left right)
  else if broadcast = 1 then
    let leftShape ← shape left
    let rightShape ← shape right
    let axis ← ofResult (arguments.int "axis" none)
    let aligned := Shape.broadcastAxis axis leftShape.length rightShape.length
    let expanded ←
      onGraph (Graph.createBroadcast setting.function title right leftShape aligned)
    onGraph (Graph.createPairwise setting.function title operation left expanded)
  else throw (.unknownBroadcast arguments.operatorType broadcast)

/-- Adds further operands to a first one, from the left. -/
def addAll (title : Label) : Ref → List Ref → Lower Ref
  | total, [] => pure total
  | total, ref :: refs => do
    let total ← onGraph (Graph.createAdd setting.function title total ref)
    addAll title total refs

/-- Sum of any number of inputs; the sum of one input is that input. -/
def sum : Lower Ref := do
  let title := operator.title
  match ← resolveAll operator.inputs with
  | [] => throw (.sumWithoutInputs title)
  | first :: others => addAll setting title first others

/-- Normalised exponentials of the input, flattened behind its first axis. -/
def softmax : Lower Ref := do
  let title := operator.title
  let selected ← resolve setting.labels
  let input ← resolveInput operator 0
  let (batch, features) ← ofResult (ofShapeResult (← shape input).flattenRest)
  let flat ← onGraph
    (Graph.createReshape setting.function (title.part ".reshape") input [batch, features])
  onGraph (Graph.createSoftmax setting.function title flat selected)

/-- Fully connected layer; the stored weights list the outputs first and are transposed. -/
def fullyConnected : Lower Ref := do
  let title := operator.title
  let input ← resolveInput operator 0
  let weights ← ofResult ((← inputTensor operator 1).transpose [1, 0])
  let bias ← inputTensor operator 2
  let weightsVar ← onGraph (Graph.addVariable (title.part ".weights") weights .internal .broadcast)
  let biasVar ← onGraph (Graph.addVariable (title.part ".biases") bias .internal .broadcast)
  onGraph (Graph.createFullyConnected setting.function title input (.var weightsVar) (.var biasVar))

def channelShuffle : Lower Ref := do
  let group ← ofResult (arguments.int "group" none)
  let axis ← ofResult (arguments.int "kernel" none)
  let input ← resolveInput operator 0
  let title := operator.title
  onGraph (Graph.createChannelShuffle setting.function title input group axis)

def squeeze : Lower Ref := do
  let axes ← ofResult (arguments.ints "dims" none)
  let input ← resolveInput operator 0
  let title := operator.title
  onGraph (Graph.createSqueeze setting.function title input axes)

/-- The rule of a kind of operator. -/
def rule : OperatorKind → Lower Ref
  | .relu => elementwise setting operator .relu
  | .sigmoid => elementwise setting operator .sigmoid
  | .tanh => elementwise setting operator .tanh
  | .dropout => dropout operator
  | .conv => convolution setting operator arguments
  | .maxPool => pooling setting operator arguments .poolMax
  | .averagePool => pooling setting operator arguments .poolAvg
  | .spatialBN => batchNormalization setting operator arguments
  | .concat => concatenation setting operator arguments
  | .sum => sum setting operator
  | .mul => arithmetic setting operator arguments .mul
  | .add => arithmetic setting operator arguments .add
  | .softmax => softmax setting operator
  | .fc => fullyConnected setting operator
  | .lrn => localResponseNormalization setting operator arguments
  | .channelShuffle => channelShuffle setting operator arguments
  | .squeeze => squeeze setting operator arguments

end Lower

end NetImport
