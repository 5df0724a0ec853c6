import NetImport.Import
import NetImport.Proofs.Lowering.Network
import NetImport.Proofs.Weights

/-!
# Stages of an import

An import is prepared before its first operator is lowered: the inputs are registered, the two
descriptors loaded and the weights filled. Then the network is lowered and its result saved. Here
every stage is described by what it changes in a session.
-/

namespace NetImport.Import

open Descriptor
open Lower (note)

/-- Registers inputs, one after the other. -/
def registerAll (inputs : List (String × Input)) : Lower Unit :=
  inputs.forM fun (name, input) => registerInput name input

/-- What an import does before it lowers the first operator; it yields the network to lower. -/
def prepare (files : FileTree) (request : ImportRequest) : Lower Network := do
  if request.names.length ≠ request.inputs.length then
    throw (.invalid (.inputCount request.names.length request.inputs.length))
  registerAll (request.names.zip request.inputs)
  note (.importing request.netPath request.weightsPath)
  let network := Network.ofMessage (← load files request.netPath request.sizeLimit)
  let weights := Network.ofMessage (← load files request.weightsPath request.sizeLimit)
  fillWeights weights
  return network

/-- What an import does with the network once it is prepared. -/
def complete (function : Nat) (request : ImportRequest) (network : Network) : Lower Ref := do
  let setting : Setting := ⟨function, request.labels⟩
  Lower.lowerNetwork setting network
  let root ← Lower.finalize setting network.externalOutputs
  let session ← get
  let nodes := session.graph.nodeCount function
  note (.imported network.operators.length nodes session.tensors.handles.size)
  if request.verbose then
    note (.summary request.netPath network.operators.length)
    note (.nodeSummary nodes)
  return root

theorem run_eq_prepare_complete (files : FileTree) (function : Nat) (request : ImportRequest) :
    run files function request = prepare files request >>= complete function request := by
  unfold run prepare complete registerAll
  by_cases differ : request.names.length ≠ request.inputs.length
  · simp only [if_pos differ, bind_assoc, pure_bind]
  · simp only [if_neg differ, bind_assoc, pure_bind]

variable {files : FileTree} {request : ImportRequest} {session after : Session} {error : Error}
  {name : String} {input : Input}

theorem registerInput_eq_ok {value : Unit} :
    registerInput name input session = .ok value after ↔
      ∃ tensor, input.toTensor = .ok tensor ∧
        after =
          { session with
            graph := session.graph.withVar ⟨name, .external, .none, tensor⟩
            names := session.names.bind name (.var session.graph.vars.length)
            tensors := (session.tensors.register name tensor).1 } := by
  simp [registerInput, Lower.publish]

theorem registerInput_eq_error :
    registerInput name input session = .error error after ↔
      input.toTensor = .error error ∧ after = session := by
  simp [registerInput, Lower.publish, Graph.addVariable]

theorem load_eq_ok {path : String} {limit : Int} {net : Message} :
    load files path limit session = .ok net after ↔
      loadNet files path limit = .ok net ∧
        after = { session with
          notices := session.notices ++
            [.loaded (Path.ofString path).toString (Network.ofMessage net).operators.length] } := by
  simp [load]

theorem load_eq_error {path : String} {limit : Int} :
    load files path limit session = .error error after ↔
      loadNet files path limit = .error error ∧ after = session := by
  simp [load]

theorem fillWeights_eq_ok {weights : Network} {value : Unit} :
    fillWeights weights session = .ok value after ↔
      ∃ filling, Fill.network weights ⟨session.tensors, session.notices⟩ = .ok () filling ∧
        after = { session with tensors := filling.store, notices := filling.notices } := by
  unfold fillWeights
  cases Fill.network weights ⟨session.tensors, session.notices⟩ with
  | ok value filling => simp [eq_comm]
  | error raised filling => simp

theorem fillWeights_eq_error {weights : Network} :
    fillWeights weights session = .error error after ↔
      ∃ filling, Fill.network weights ⟨session.tensors, session.notices⟩ = .error error filling ∧
        after = { session with tensors := filling.store, notices := filling.notices } := by
  unfold fillWeights
  cases Fill.network weights ⟨session.tensors, session.notices⟩ with
  | ok value filling => simp
  | error raised filling => simp [eq_comm, and_assoc]

end NetImport.Import

/-! ## A small import -/

namespace NetImport.Sample

open Descriptor

/-- Rectifies `x`. -/
def rectifierNet : Message :=
  .nested 2
    (.scalars 1 [.text "x"] (.scalars 2 [.text "y"] (.scalars 4 [.text "Relu"] (.done []))))
    (.scalars 8 [.text "y"] (.done []))

/-- Lists a seven for `x` and `w`. -/
def sevenWeights : Message :=
  .nested 2
    (.scalars 2 [.text "x", .text "w"] (.scalars 4 [.text "GivenTensorFill"]
      (.nested 5 (.scalars 1 [.text "shape"] (.scalars 6 [.integer 1] (.done [])))
        (.nested 5 (.scalars 1 [.text "values"] (.scalars 5 [.single ⟨0x40e00000⟩] (.done [])))
          (.done [])))))
    (.done [])

/-- Lists a number for a blob and for `w`. -/
def listing (blob : String) (number : Binary32) : Message :=
  .nested 2
    (.scalars 2 [.text blob, .text "w"] (.scalars 4 [.text "GivenTensorFill"]
      (.nested 5 (.scalars 1 [.text "shape"] (.scalars 6 [.integer 1] (.done [])))
        (.nested 5 (.scalars 1 [.text "values"] (.scalars 5 [.single number] (.done [])))
          (.done [])))))
    (.done [])

/-- A tree of files that are found by relative and by absolute paths alike. -/
def folderOf (files : List (List String × List UInt8)) : FileTree :=
  ⟨files.map fun (location, content) => (location, .file content), []⟩

def folder : FileTree :=
  folderOf [(["net.pb"], rectifierNet.encode), (["weights.pb"], sevenWeights.encode)]

/-- A graph with one function that is empty. -/
def ground : Graph := ⟨[], [], ["main"]⟩

def five : Tensor := .single ⟨0x40a00000⟩

/-- Hands over a five as `x`. -/
def request : ImportRequest :=
  ⟨"net.pb", "weights.pb", ["x"], [.tensor five], Setting.defaultLabels, defaultSizeLimit, false⟩

end NetImport.Sample
