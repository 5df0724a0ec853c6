import NetImport.Descriptor.File
import NetImport.Lowering.Network
import NetImport.Tensor.NumericArray
import NetImport.Weights

/-!
# Importing a network

An import registers the caller's input tensors as variables of the graph, loads the descriptors of
the network and of its weights, fills the weights and lowers the network into a function. Names and
tensors belong to the one import; what a failing import has added to the graph stays there.
-/

namespace NetImport

open Descriptor

/-- An input as a caller hands it over: a tensor, or an array that is to be cast to one. -/
inductive Input where
  | tensor (value : Tensor)
  | array (value : NumericArray)

def Input.toTensor : Input → Except Error Tensor
  | tensor value => .ok value
  | array value => value.cast

/-- What the caller of an import provides. -/
structure ImportRequest where
  netPath : String
  weightsPath : String
  names : List String
  inputs : List Input
  labels : String
  sizeLimit : Int
  verbose : Bool

namespace Import

open Lower (onGraph ofResult publish note)

/-- Registers an input as a variable that the caller sees. -/
def registerInput (name : String) (input : Input) : Lower Unit := do
  let tensor ← ofResult input.toTensor
  let index ← onGraph (Graph.addVariable name tensor .external .none)
  publish name (.var index)
  modify fun session => { session with tensors := (session.tensors.register name tensor).1 }

/-- Loads the description of a network from a file and takes note of it. -/
def load (files : FileTree) (path : String) (limit : Int) : Lower Message := do
  let net ← ofResult (loadNet files path limit)
  note (.loaded (Path.ofString path).toString (Network.ofMessage net).operators.length)
  return net

/-- Fills the stored tensors from a weights descriptor. -/
def fillWeights (weights : Network) : Lower Unit := fun session =>
  match Fill.network weights ⟨session.tensors, session.notices⟩ with
  | .ok value filling =>
    .ok value { session with tensors := filling.store, notices := filling.notices }
  | .error error filling =>
    .error error { session with tensors := filling.store, notices := filling.notices }

/-- Runs an import into a function and returns the node that saves the result. -/
def run (files : FileTree) (function : Nat) (request : ImportRequest) : Lower Ref := do
  if request.names.length ≠ request.inputs.length then
    throw (.invalid (.inputCount request.names.length request.inputs.length))
  (request.names.zip request.inputs).forM fun (name, input) => registerInput name input
  note (.importing request.netPath request.weightsPath)
  let network := Network.ofMessage (← load files request.netPath request.sizeLimit)
  let weights := Network.ofMessage (← load files request.weightsPath request.sizeLimit)
  fillWeights weights
  let setting : Setting := ⟨function, request.labels⟩
  Lower.lowerNetwork setting network
  let root ← Lower.finalize setting network.externalOutputs
  let session ← get
  let nodes := session.graph.nodeCount function
  note (.imported network.operators.length nodes session.tensors.handles.size)
  if request.verbose then
    note (.summary request.netPath network.operators.length)
    note (.nodeSummary nodes)
  return root

/-- Starts an import on a graph: no name is published and no tensor stored. -/
def start (graph : Graph) : Session := ⟨graph, .empty, .empty, []⟩

end Import

end NetImport
