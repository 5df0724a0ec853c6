import NetImport.Graph.Factory
import NetImport.Notice
import NetImport.Registry
import NetImport.Tensor.Store
import NetImport.Tensor.Transpose

/-!
# Lowering sessions

Lowering a network into a function of a graph keeps a registry of names: an operator publishes what
it computes under the names of its outputs, and reads its inputs by name. A name that is not
published may be that of a stored tensor; its first use promotes the tensor into a variable of the
graph, which is published in turn.
-/

namespace NetImport

/-- What stays the same during a session. -/
structure Setting where
  /-- The function into which operators are lowered. -/
  function : Nat
  /-- The name of the tensor of labels that is compared with normalised exponentials. -/
  labels : String
  deriving DecidableEq, Repr

/-- The name of the tensor of labels unless the caller chooses another one. -/
def Setting.defaultLabels : String := "softmax_expected"

/-- The graph under construction, the published names, the stored tensors and the notices. -/
structure Session where
  graph : Graph
  names : Registry Label Ref
  tensors : TensorStore
  notices : List Notice

/-- Steps that carry a session on or fail. -/
abbrev Lower := EStateM Error Session

namespace Lower

/-- Lets an operation that does not touch the session be a step. -/
def ofResult {α : Type} : Except Error α → Lower α
  | .ok value => pure value
  | .error error => throw error

/-- Lets a step that builds the graph be a step of the session. -/
def onGraph {α : Type} (build : Build α) : Lower α := fun session =>
  match build session.graph with
  | .ok value graph => .ok value { session with graph }
  | .error error graph => .error error { session with graph }

def note (notice : Notice) : Lower Unit :=
  modify fun session => { session with notices := session.notices ++ [notice] }

def tensor (name : Label) : Lower Tensor := do ofResult ((← get).tensors.get name)

def shape (ref : Ref) : Lower Shape := return (← get).graph.shapeOf ref

def publish (name : Label) (ref : Ref) : Lower Unit :=
  modify fun session => { session with names := session.names.bind name ref }

/-- What is published under a name. -/
def published (name : Label) : Lower Ref := do
  match (← get).names.get? name with
  | some ref => return ref
  | none => throw (.unknownNode name)

/-- What is published under a name, or else the stored tensor of that name, promoted. -/
def resolve (name : Label) : Lower Ref := do
  match (← get).names.get? name with
  | some ref => return ref
  | none =>
    let payload ← tensor name
    let index ← onGraph (Graph.addVariable name payload .internal .broadcast)
    publish name (.var index)
    return .var index

/-- Runs a step that, if it fails, leaves behind no variable, node or name. -/
def atomically {α : Type} (step : Lower α) : Lower α := do
  let before ← get
  try step
  catch error =>
    modify fun session =>
      { session with
        graph :=
          { session.graph with
            vars := session.graph.vars.take before.graph.vars.length
            nodes := session.graph.nodes.take before.graph.nodes.length }
        names := session.names.truncate before.names.size }
    throw error

end Lower

end NetImport
