import NetImport.Label
import NetImport.Number.Decimal
import NetImport.Tensor.Basic

/-!
# Dataflow graphs

A graph holds variables, which own a tensor, and nodes, which apply an operation to operands; nodes
belong to functions. Variables, nodes and functions are only ever appended, so that the position of
one identifies it. A node records the shape of its result. Spatial operations work on tensors whose
channels are the last axis.
-/

namespace NetImport

/-- A variable or a node, by its position in the graph. -/
inductive Ref where
  | var (index : Nat)
  | node (index : Nat)
  deriving DecidableEq, Repr

/-- Whether the caller of the graph sees a variable, or the graph keeps it to itself. -/
inductive Visibility where
  | external
  | internal
  deriving DecidableEq, Repr

def Visibility.text : Visibility → String
  | external => "public"
  | internal => "private"

def Visibility.ofText (text : String) : Except Error Visibility :=
  match [external, internal].find? fun visibility => visibility.text = text with
  | some visibility => .ok visibility
  | none => .error .rejectedValue

/-- How a variable is initialised: left as provided, or filled with a constant payload. -/
inductive TrainKind where
  | none
  | broadcast
  deriving DecidableEq, Repr

def TrainKind.text : TrainKind → String
  | none => "none"
  | broadcast => "broadcast"

def TrainKind.ofText (text : String) : Except Error TrainKind :=
  match [TrainKind.none, broadcast].find? fun train => train.text = text with
  | some train => .ok train
  | .none => .error .rejectedValue

/-- A tensor owned by the graph: a caller's input, a weight, or a buffer for a result. -/
structure Variable where
  name : Label
  visibility : Visibility
  train : TrainKind
  payload : Tensor

/-- The shape of a variable is that of its payload. -/
def Variable.shape (owned : Variable) : Shape := owned.payload.shape

/-- The kinds of thing that a graph holds. -/
inductive NodeKind where
  | var
  | relu
  | sigmoid
  | tanh
  | transpose
  | convolution
  | poolMax
  | poolAvg
  | batchNormalization
  | concat
  | add
  | mul
  | broadcast
  | softmax
  | reshape
  | fullyConnected
  | localResponseNormalization
  | channelShuffle
  | squeeze
  | save
  deriving DecidableEq, Repr

namespace NodeKind

/-- All kinds, in the order in which they are documented. -/
def all : List NodeKind :=
  [var, relu, sigmoid, tanh, transpose, convolution, poolMax, poolAvg, batchNormalization, concat,
    add, mul, broadcast, softmax, reshape, fullyConnected, localResponseNormalization,
    channelShuffle, squeeze, save]

def text : NodeKind → String
  | var => "Variable"
  | relu => "Relu"
  | sigmoid => "Sigmoid"
  | tanh => "Tanh"
  | transpose => "Transpose"
  | convolution => "Convolution"
  | poolMax => "PoolMax"
  | poolAvg => "PoolAvg"
  | batchNormalization => "BatchNormalization"
  | concat => "Concat"
  | add => "Add"
  | mul => "Mul"
  | broadcast => "Broadcast"
  | softmax => "SoftMax"
  | reshape => "Reshape"
  | fullyConnected => "FullyConnected"
  | localResponseNormalization => "LocalResponseNormalization"
  | channelShuffle => "ChannelShuffle"
  | squeeze => "Squeeze"
  | save => "Save"

end NodeKind

/-- The geometry of a square sliding window. -/
structure Window where
  kernel : Int
  stride : Int
  pad : Int
  deriving DecidableEq, Repr

/-- An operation with its parameters; saving names the variable that receives the operand. -/
inductive Operation where
  | relu
  | sigmoid
  | tanh
  | transpose (permutation : List Int)
  | convolution (window : Window) (group : Int)
  | poolMax (window : Window)
  | poolAvg (window : Window)
  | batchNormalization (channel : Int) (epsilon momentum : Binary64)
  | concat (dimension : Int)
  | add
  | mul
  | broadcast (axis : Int)
  | softmax
  | reshape (target : Shape)
  | fullyConnected
  | localResponseNormalization (halfWindow : Int) (alpha beta bias : Binary64)
  | channelShuffle (group axis : Int)
  | squeeze (axes : List Int)
  | save (output : Nat)
  deriving DecidableEq, Repr

def Operation.kind : Operation → NodeKind
  | relu => .relu
  | sigmoid => .sigmoid
  | tanh => .tanh
  | transpose _ => .transpose
  | convolution _ _ => .convolution
  | poolMax _ => .poolMax
  | poolAvg _ => .poolAvg
  | batchNormalization _ _ _ => .batchNormalization
  | concat _ => .concat
  | add => .add
  | mul => .mul
  | broadcast _ => .broadcast
  | softmax => .softmax
  | reshape _ => .reshape
  | fullyConnected => .fullyConnected
  | localResponseNormalization _ _ _ _ => .localResponseNormalization
  | channelShuffle _ _ => .channelShuffle
  | squeeze _ => .squeeze
  | save _ => .save

/-- The variable that an operation writes; only saving writes one. -/
def Operation.output? : Operation → Option Nat
  | save output => some output
  | _ => none

/-- A node: an operation applied to operands, within a function. -/
structure Node where
  function : Nat
  name : Label
  operation : Operation
  operands : List Ref
  shape : Shape
  deriving DecidableEq, Repr

/-- The variables, nodes and function names of a graph, in the order of their creation. -/
structure Graph where
  vars : List Variable
  nodes : List Node
  functions : List String

namespace Graph

def empty : Graph := ⟨[], [], []⟩

/-- Whether a reference denotes something. -/
def holds (graph : Graph) : Ref → Bool
  | .var index => index < graph.vars.length
  | .node index => index < graph.nodes.length

def kindOf (graph : Graph) : Ref → NodeKind
  | .var _ => .var
  | .node index => ((graph.nodes[index]?).map fun node => node.operation.kind).getD .var

def nameOf (graph : Graph) : Ref → Label
  | .var index => ((graph.vars[index]?).map Variable.name).getD default
  | .node index => ((graph.nodes[index]?).map Node.name).getD default

def shapeOf (graph : Graph) : Ref → Shape
  | .var index => ((graph.vars[index]?).map Variable.shape).getD []
  | .node index => ((graph.nodes[index]?).map Node.shape).getD []

/-- The operands of what a reference denotes; a variable has none. -/
def operandsOf (graph : Graph) : Ref → List Ref
  | .var _ => []
  | .node index => ((graph.nodes[index]?).map Node.operands).getD []

/-- The variable that a node writes; only a node that saves writes one. -/
def outputOf? (graph : Graph) : Ref → Option Nat
  | .var _ => none
  | .node index => (graph.nodes[index]?).bind fun node => node.operation.output?

/-- The parameters of a batch normalisation: scale, bias, mean and variance. -/
def normalizationParts (graph : Graph) (ref : Ref) : Except Error (List Ref) :=
  if graph.kindOf ref = .batchNormalization then .ok (graph.operandsOf ref).tail
  else .error .partNotPresent

/-- What a node that saves reads, and the variable that it writes. -/
def saveParts (graph : Graph) (ref : Ref) : Except Error (List Ref) :=
  match graph.outputOf? ref with
  | some output => .ok (graph.operandsOf ref ++ [.var output])
  | none => .error .partNotPresent

/-- A line that describes what a reference denotes. -/
def describe (graph : Graph) (ref : Ref) : String :=
  (graph.kindOf ref).text ++ "(name=" ++ (graph.nameOf ref).quoted ++ ", type=" ++
    (graph.shapeOf ref).typeText ++ ")"

/-- The first variable of a name. -/
def variableNamed? (graph : Graph) (name : Label) : Option Nat :=
  graph.vars.findIdx? fun owned => owned.name = name

def nodeCount (graph : Graph) (function : Nat) : Nat :=
  graph.nodes.countP fun node => node.function = function

end Graph

end NetImport
