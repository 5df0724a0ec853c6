import Mathlib.Logic.Equiv.Basic
import NetImport.Proofs.Likeness.Import

/-!
# Imports with renamed blobs

Inputs, operators and directives refer to each other by the names of blobs. If these are replaced
one for one, an import gets as far as before and builds the same graph up to the names that its
variables and nodes carry: no name is captured by one that the import makes up.
-/

namespace NetImport

/-! ## Replacing names -/

namespace Descriptor

/-- The operator with the names of its blobs replaced, without the message it was read from. -/
def Operator.renamed (rename : Label → Label) (operator : Operator) : Operator :=
  { operator with
    inputs := operator.inputs.map rename
    outputs := operator.outputs.map rename
    source := .done [] }

/-- All that filling looks at in a directive, with the names of its outputs replaced. -/
def Operator.directive (rename : Label → Label) (operator : Operator) :
    Label × List Label × List Argument :=
  (operator.type, operator.outputs.map rename, operator.arguments)

def Network.renamed (rename : Label → Label) (network : Network) : Network :=
  ⟨network.operators.map (Operator.renamed rename), network.externalOutputs.map rename⟩

end Descriptor

open Descriptor

/-- The graph with the names of its variables and nodes taken off. -/
def Graph.anonymous (graph : Graph) : Graph :=
  { graph with
    vars := graph.vars.map fun owned => { owned with name := default }
    nodes := graph.nodes.map fun node => { node with name := default } }

/-- The same graph up to names, with the same things registered under the new names. -/
structure Session.Renamed (rename : Label → Label) (session other : Session) : Prop where
  graph : other.graph.anonymous = session.graph.anonymous
  names : other.names = session.names.renamed rename
  tensors : other.tensors.tensors = session.tensors.tensors
  handles : other.tensors.handles = session.tensors.handles.renamed rename

namespace Import

/-- The other import is the first one with the names of all blobs replaced. -/
structure Renames (rename : Label → Label) (files : FileTree) (request : ImportRequest)
    (otherFiles : FileTree) (other : ImportRequest) : Prop where
  names : other.names.map Label.text = request.names.map fun name => rename (.text name)
  inputs : other.inputs = request.inputs
  labels : Label.text other.labels = rename (.text request.labels)
  verbose : other.verbose = request.verbose
  network : AlikeResults (fun network otherNetwork =>
      otherNetwork.renamed id = network.renamed rename)
    (networkAt files request.netPath request.sizeLimit)
    (networkAt otherFiles other.netPath other.sizeLimit)
  weights : AlikeResults (fun weights otherWeights =>
      otherWeights.operators.map (Operator.directive id) =
        weights.operators.map (Operator.directive rename))
    (networkAt files request.weightsPath request.sizeLimit)
    (networkAt otherFiles other.weightsPath other.sizeLimit)

end Import

/-! ## Likeness up to names -/

namespace Likeness

open Import

/-- Names are replaced, numbers stay the same, and titles do not matter. -/
def upToNames (rename : Label → Label) (injective : Function.Injective rename) : Likeness where
  rename := rename
  injective := injective
  numbers := Eq
  numbers_refl := Eq.refl
  titles _ _ := True
  titles_refl _ := trivial
  titles_rename _ := trivial
  titles_part _ _ _ _ := trivial

variable {rename : Label → Label} {injective : Function.Injective rename}

theorem directives_of_renamed {directive other : Operator}
    (same : other.directive id = directive.directive rename) :
    (upToNames rename injective).Directives directive other := by
  simp only [Operator.directive, List.map_id, Prod.mk.injEq] at same
  have ⟨type, outputs, arguments⟩ := same
  refine ⟨type, outputs, ?_⟩
  rw [arguments]
  exact List.forall₂_same.mpr fun argument _ => listings_refl argument

theorem operators_of_renamed {operator other : Operator}
    (same : other.renamed id = operator.renamed rename) :
    (upToNames rename injective).Operators operator other := by
  simp only [Operator.renamed, List.map_id, Operator.mk.injEq] at same
  have ⟨type, name, inputs, outputs, arguments, _⟩ := same
  have directive : other.directive id = operator.directive rename := by
    simp only [Operator.directive, List.map_id, type, outputs, arguments]
  exact { directives_of_renamed directive with name, inputs }

theorem networks_of_renamed {network other : Network}
    (same : other.renamed id = network.renamed rename) :
    (upToNames rename injective).Networks network other := by
  simp only [Network.renamed, List.map_id, Network.mk.injEq] at same
  have ⟨operators, externalOutputs⟩ := same
  exact ⟨(map_eq_iff_forall₂.mp operators).imp fun _ _ => operators_of_renamed, externalOutputs⟩

theorem imports_of_renames {files otherFiles : FileTree} {request other : ImportRequest}
    (renames : Renames rename files request otherFiles other) :
    (upToNames rename injective).Imports files request otherFiles other where
  names := renames.names
  inputs := by
    rw [renames.inputs]
    exact List.forall₂_same.mpr fun input _ => alikeResults_refl tensors_refl input.toTensor
  labels := renames.labels
  verbose := renames.verbose
  network := renames.network.imp fun _ _ => networks_of_renamed
  weights := renames.weights.imp fun _ _ same =>
    (map_eq_iff_forall₂.mp same).imp fun _ _ => directives_of_renamed

/-- Tensors with the same numbers are the same. -/
theorem Tensors.eq {tensor other : Tensor}
    (alike : (upToNames rename injective).Tensors tensor other) : other = tensor := by
  rcases tensor with ⟨extents, data, storable, size⟩
  rcases other with ⟨otherExtents, otherData, otherStorable, otherSize⟩
  have ⟨sameExtents, numbers⟩ := alike
  dsimp only at sameExtents numbers
  subst sameExtents
  have sameData : otherData = data := by
    refine Array.ext (otherSize.trans size.symm) fun place inside beside => ?_
    have number : data.getD place .zero = otherData.getD place .zero := numbers place
    simpa [Array.getD, inside, beside] using number.symm
  subst sameData
  rfl

theorem Graphs.anonymous_eq {graph other : Graph}
    (alike : (upToNames rename injective).Graphs graph other) :
    other.anonymous = graph.anonymous := by
  have vars := map_eq_iff_forall₂.mpr (alike.vars.imp fun owned otherOwned vars =>
    show ({ otherOwned with name := default } : Variable) = { owned with name := default } by
      rw [vars.visibility, vars.train, vars.payload.eq])
  have nodes := map_eq_iff_forall₂.mpr (alike.nodes.imp fun node otherNode nodes =>
    show ({ otherNode with name := default } : Node) = { node with name := default } by
      rw [nodes.function, nodes.operation, nodes.operands, nodes.shape])
  rw [Graph.anonymous, vars, nodes, alike.functions, Graph.anonymous]

theorem Sessions.renamed {session other : Session}
    (alike : (upToNames rename injective).Sessions session other) :
    session.Renamed rename other where
  graph := alike.graph.anonymous_eq
  names := alike.names
  tensors := Array.toList_inj.mp (eq_of_forall₂ (alike.tensors.tensors.imp fun _ _ => Tensors.eq))
  handles := alike.tensors.handles

end Likeness

/-! ## Renamed imports -/

namespace Import

open Steps (Alike)

/--
The names of blobs matter up to equality only. If they are replaced one for one, the import succeeds
as before or fails at the same stage with a failure of the same class. Either way the graph is the
same up to the names in it, and the same things are registered under the new names.
-/
theorem names_matter_up_to_equality {rename : Label → Label}
    (injective : Function.Injective rename) {files otherFiles : FileTree}
    {request other : ImportRequest} (renames : Renames rename files request otherFiles other)
    (function : Nat) (graph : Graph) :
    failureStage? otherFiles function other (start graph) =
        failureStage? files function request (start graph) ∧
      Alike SameCategory (Session.Renamed rename) Eq (run files function request (start graph))
        (run otherFiles function other (start graph)) := by
  have imports : (Likeness.upToNames rename injective).Imports files request otherFiles other :=
    Likeness.imports_of_renames renames
  have ⟨stage, alike⟩ := imports.alike function graph
  exact ⟨stage, alike.imp fun _ _ => Likeness.Sessions.renamed⟩

end Import

namespace Sample

/-- A name that the import makes up takes the place of `x`. -/
def capture : Label → Label := Equiv.swap (.text "x") (.text "output.var")

def capturedNet : Message :=
  .nested 2
    (.scalars 1 [.text "output.var"]
      (.scalars 2 [.text "y"] (.scalars 4 [.text "Relu"] (.done []))))
    (.scalars 8 [.text "y"] (.done []))

def capturedWeights : Message := listing "output.var" ⟨0x40e00000⟩

def capturedFolder : FileTree :=
  folderOf [(["net.pb"], capturedNet.encode), (["weights.pb"], capturedWeights.encode)]

def capturedRequest : ImportRequest := { request with names := ["output.var"] }

end Sample

namespace Import

theorem names_matter_up_to_equality_sample :
    ∃ root after otherAfter,
      run Sample.folder 0 Sample.request (start Sample.ground) = .ok root after ∧
        run Sample.capturedFolder 0 Sample.capturedRequest (start Sample.ground) =
          .ok root otherAfter ∧
        after.Renamed Sample.capture otherAfter := by
  have renames : Renames Sample.capture Sample.folder Sample.request Sample.capturedFolder
      Sample.capturedRequest := by
    have network : networkAt Sample.folder "net.pb" defaultSizeLimit =
        .ok (Network.ofMessage Sample.rectifierNet) := by decide +kernel
    have weights : networkAt Sample.folder "weights.pb" defaultSizeLimit =
        .ok (Network.ofMessage Sample.sevenWeights) := by decide +kernel
    have otherNetwork : networkAt Sample.capturedFolder "net.pb" defaultSizeLimit =
        .ok (Network.ofMessage Sample.capturedNet) := by decide +kernel
    have otherWeights : networkAt Sample.capturedFolder "weights.pb" defaultSizeLimit =
        .ok (Network.ofMessage Sample.capturedWeights) := by decide +kernel
    refine ⟨by decide +kernel, rfl, by decide +kernel, rfl, ?_, ?_⟩
    · exact network ▸ otherNetwork ▸ .ok (by decide +kernel)
    · exact weights ▸ otherWeights ▸ .ok (by decide +kernel)
  have succeeds : failureStage? Sample.folder 0 Sample.request (start Sample.ground) = none := by
    decide +kernel
  rcases failureStage?_eq_none.mp succeeds with ⟨root, after, first⟩
  have alike := (names_matter_up_to_equality (Equiv.injective _) renames 0 Sample.ground).2
  rcases (first ▸ alike).of_ok with ⟨_, otherAfter, second, rfl, sessions⟩
  exact ⟨root, after, otherAfter, first, second, sessions⟩

end Import

end NetImport
